import SecureDialogues.Crypto.KeyFiles
import SecureDialogues.Lib.Run

/-!
# The own keys from session to session

`main/passask.cpp`, `main/main.cpp` and `messages/src/core-initializer/coreinitializer.cpp`. The first
password that is typed is kept as a digest. The keys are read from their files at the start of a
session, or made anew where that fails, and written when the window is closed. A session can end at any
moment without that, and while a file is being written.
-/

namespace SecureDialogues

open Text

variable {Pub Priv : Type}

/-! ## One session -/

/-- `AsymetricalKeyStore` (`asymetricalkeystore.h:22-23`), of which both keys are set together. -/
abbrev AsymetricalKeyStore (Pub Priv : Type) := Option (Pub × Priv)

/-- `FILE_DIGEST` (`main.cpp:25`). -/
def fileDigest : Str := str "conf/pass.digest"

/-- `FILE_KEY` (`coreinitializer.cpp:39`). -/
def fileKey : Str := str "conf/keys"

/-- A running program: its password, the keys that it shows and saves and the one that it signs
with. -/
structure Session (Pub Priv : Type) where
  pass : Str
  mAsymKeys : AsymetricalKeyStore Pub Priv
  mLocal : Priv

section

variable (crypto : CryptoPP Pub Priv)

/-- `isPassValid` (`passask.cpp:24-35`). -/
def isPassValid (pass : Str) (files : Files) : Bool × Files :=
  match files[fileDigest]? with
  | none => (true, files.write ⟨fileDigest, crypto.makeDigest pass⟩)
  | some text => (text = crypto.makeDigest pass, files)

/-- `getPassword` (`passask.cpp:37-55`), with the texts that are typed before it is cancelled. -/
def getPassword (files : Files) : List Str → Option Str × Files
  | [] => (none, files)
  | text :: rest =>
    match isPassValid crypto text files with
    | (true, files) => (some text, files)
    | (false, files) => getPassword files rest

/-- `AsymetricalKeyGenerator::generate` (`asymetricalkeygenerator.cpp:13-31`), with the parameters that
it finds. -/
def AsymetricalKeyGenerator.generate (parameters : Option Priv)
    (mKeyStore : AsymetricalKeyStore Pub Priv) : Bool × AsymetricalKeyStore Pub Priv :=
  match parameters with
  | some parameters => (true, some (crypto.publicKey parameters, parameters))
  | none => (false, mKeyStore)

/-- `loadKeys` (`coreinitializer.cpp:41-53`). -/
def loadKeys (files : Files) (pass : Str) (parameters : Option Priv) : AsymetricalKeyStore Pub Priv :=
  match FileAsyncKeySerializer.deserialize crypto fileKey (crypto.makeForStringPass pass) files with
  | .ok keys => some keys
  | .error _ => (AsymetricalKeyGenerator.generate crypto parameters none).2

/-- What `saveKeys` (`coreinitializer.cpp:55-60`) writes. -/
def Session.saveKeys (session : Session Pub Priv) : List Files.Write :=
  match session.mAsymKeys with
  | some (pub, priv) =>
    FileAsyncKeySerializer.serialize crypto fileKey (crypto.makeForStringPass session.pass) pub priv
  | none => []

/-- `CryptoSystemImpl::generateAsymetricKeys` (`cryptosystemimpl.cpp:134-141`). -/
def Session.generateAsymetricKeys (parameters : Option Priv) (session : Session Pub Priv) :
    Session Pub Priv :=
  match AsymetricalKeyGenerator.generate crypto parameters session.mAsymKeys with
  | (true, keys) => { session with mAsymKeys := keys, mLocal := (keys.map Prod.snd).getD session.mLocal }
  | (false, keys) => { session with mAsymKeys := keys }

end

/-! ## Sessions -/

/-- The files and the running program. -/
structure Installation (Pub Priv : Type) where
  files : Files
  session : Option (Session Pub Priv)

/-- The program is started; it ends while the digest of the first text is written; the user has new
keys made; the window is closed; the program ends while the keys are saved, or otherwise. -/
inductive SessionMove (Priv : Type) where
  | start (typed : List Str) (parameters : Option Priv)
  | stopAsking (typed : List Str) (filled : Nat)
  | generate (parameters : Option Priv)
  | close
  | stopSaving (done filled : Nat)
  | stop

/-- The texts that are typed. -/
def SessionMove.typed : SessionMove Priv → List Str
  | start typed _ => typed
  | stopAsking typed _ => typed
  | _ => []

namespace Installation

/-- Nothing has been started yet. -/
def initial : Installation Pub Priv := ⟨∅, none⟩

variable (crypto : CryptoPP Pub Priv)

/-- `main` (`main.cpp:30-78`) up to the window. It gives up if the user cancels or there are no
keys. -/
def start (s : Installation Pub Priv) (typed : List Str) (parameters : Option Priv) :
    Installation Pub Priv :=
  match getPassword crypto s.files typed with
  | (none, files) => ⟨files, none⟩
  | (some pass, files) =>
    ⟨files, (loadKeys crypto files pass parameters).map fun keys => ⟨pass, some keys, keys.2⟩⟩

/-- A move of the user or of fate. -/
def next (s : Installation Pub Priv) : SessionMove Priv → Installation Pub Priv
  | .start typed parameters =>
    match s.session with
    | none => s.start crypto typed parameters
    | some _ => s
  | .stopAsking typed filled =>
    match s.session, s.files[fileDigest]?, typed with
    | none, none, text :: _ =>
      ⟨s.files.write ⟨fileDigest, (crypto.makeDigest text).take filled⟩, none⟩
    | _, _, _ => s
  | .generate parameters =>
    ⟨s.files, s.session.map (Session.generateAsymetricKeys crypto parameters)⟩
  | .close =>
    match s.session with
    | some session => ⟨s.files.writeAll (session.saveKeys crypto), none⟩
    | none => s
  | .stopSaving done filled =>
    match s.session with
    | some session => ⟨s.files.writePart (session.saveKeys crypto) done filled, none⟩
    | none => s
  | .stop => ⟨s.files, none⟩

/-- What a session of a password would read. -/
def stored (s : Installation Pub Priv) (pass : Str) : Except Exn (Pub × Priv) :=
  FileAsyncKeySerializer.deserialize crypto fileKey (crypto.makeForStringPass pass) s.files

end Installation

/-! ## Files -/

variable {crypto : CryptoPP Pub Priv} {files : Files}

theorem fileDigest_ne (rest : Str) : fileKey ++ rest ≠ fileDigest := by
  intro same
  exact absurd (show fileKey <+: fileDigest from ⟨rest, same⟩) (by decide)

theorem filename_ne_fileDigest {Key : Type} (traits : KeyTraits Key) :
    KeyLoader.filename traits fileKey ≠ fileDigest := by
  rw [KeyLoader.filename, List.append_assoc]
  exact fileDigest_ne _

theorem read_write_digest {Key : Type} (traits : KeyTraits Key) (text : Str) :
    (files.write ⟨fileDigest, text⟩).read (KeyLoader.filename traits fileKey) =
      files.read (KeyLoader.filename traits fileKey) :=
  Files.read_write_of_ne (filename_ne_fileDigest traits).symm

/-- The digest does not depend on the keys. -/
theorem digest_writePart (session : Session Pub Priv) (done filled : Nat) :
    (files.writePart (session.saveKeys crypto) done filled)[fileDigest]? = files[fileDigest]? := by
  have other := filename_ne_fileDigest crypto.publicTraits
  have other' := filename_ne_fileDigest crypto.privateTraits
  rw [Session.saveKeys]
  cases session.mAsymKeys with
  | none => rfl
  | some keys =>
    rcases done with _ | _ | done <;>
      simp [Files.writePart, Files.writeAll, FileAsyncKeySerializer.serialize, KeyLoader.saveKey,
        Files.getElem?_write, other, other']

theorem digest_writeAll (session : Session Pub Priv) :
    (files.writeAll (session.saveKeys crypto))[fileDigest]? = files[fileDigest]? := by
  have same : files.writeAll (session.saveKeys crypto) =
      files.writePart (session.saveKeys crypto) (session.saveKeys crypto).length 0 := by
    rw [Files.writePart, List.getElem?_eq_none le_rfl]
  rw [same, digest_writePart]

/-- At most the digest is written, where there was none. -/
def LeavesKeys (files files' : Files) : Prop :=
  files' = files ∨ files[fileDigest]? = none ∧ ∃ text, files' = files.write ⟨fileDigest, text⟩

theorem LeavesKeys.read {files' : Files} (leaves : LeavesKeys files files') {Key : Type}
    (traits : KeyTraits Key) : files'.read (KeyLoader.filename traits fileKey) =
      files.read (KeyLoader.filename traits fileKey) := by
  rcases leaves with rfl | ⟨-, text, rfl⟩
  · rfl
  · exact read_write_digest traits text

theorem LeavesKeys.deserialize {files' : Files} (leaves : LeavesKeys files files')
    (cipher : AesKeyStruct) : FileAsyncKeySerializer.deserialize crypto fileKey cipher files' =
      FileAsyncKeySerializer.deserialize crypto fileKey cipher files := by
  rw [FileAsyncKeySerializer.deserialize, FileAsyncKeySerializer.deserialize,
    KeyLoader.loadKey_of_read (leaves.read crypto.privateTraits),
    KeyLoader.loadKey_of_read (leaves.read crypto.publicTraits)]

theorem LeavesKeys.digest {files' : Files} (leaves : LeavesKeys files files') {text : Str}
    (digest : files[fileDigest]? = some text) : files' = files := by
  rcases leaves with same | ⟨none, -⟩
  · exact same
  · cases none.symm.trans digest

/-- What the questions for the password come to. -/
theorem getPassword_spec (typed : List Str) {pass : Option Str} {files' : Files}
    (entered : getPassword crypto files typed = (pass, files')) : LeavesKeys files files' ∧
      ∀ text, pass = some text →
        text ∈ typed ∧ files'[fileDigest]? = some (crypto.makeDigest text) := by
  induction typed with
  | nil =>
    cases entered
    exact ⟨.inl rfl, fun _ never => nomatch never⟩
  | cons text rest ih =>
    rw [getPassword, isPassValid] at entered
    cases digest : files[fileDigest]? with
    | none =>
      rw [digest] at entered
      cases entered
      refine ⟨.inr ⟨digest, _, rfl⟩, ?_⟩
      rintro _ ⟨⟩
      exact ⟨List.mem_cons_self, by rw [Files.getElem?_write, if_pos rfl]⟩
    | some kept =>
      rw [digest] at entered
      dsimp only at entered
      by_cases same : kept = crypto.makeDigest text
      · rw [decide_eq_true same] at entered
        cases entered
        refine ⟨.inl rfl, ?_⟩
        rintro _ ⟨⟩
        exact ⟨List.mem_cons_self, by rw [digest, same]⟩
      · rw [decide_eq_false same] at entered
        obtain ⟨leaves, valid⟩ := ih entered
        refine ⟨leaves, fun text entered => ?_⟩
        exact (valid text entered).imp_left (List.mem_cons_of_mem _)

/-! ## Moves -/

namespace Installation

variable {s : Installation Pub Priv} {texts : List Str}

variable (crypto) in
/-- What a start comes to. -/
theorem start_spec (s : Installation Pub Priv) (typed : List Str) (parameters : Option Priv) :
    LeavesKeys s.files (s.start crypto typed parameters).files ∧
      ∀ r, (s.start crypto typed parameters).session = some r → r.pass ∈ typed ∧
        (s.start crypto typed parameters).files[fileDigest]? = some (crypto.makeDigest r.pass) ∧
        r.mAsymKeys = loadKeys crypto (s.start crypto typed parameters).files r.pass parameters ∧
        ∃ pub, r.mAsymKeys = some (pub, r.mLocal) := by
  rw [start]
  rcases entered : getPassword crypto s.files typed with ⟨_ | pass, files⟩
  · exact ⟨(getPassword_spec typed entered).1, fun _ never => nomatch never⟩
  · obtain ⟨leaves, valid⟩ := getPassword_spec typed entered
    refine ⟨leaves, fun r running => ?_⟩
    obtain ⟨keys, loaded, rfl⟩ := Option.map_eq_some_iff.mp running
    obtain ⟨member, digest⟩ := valid pass rfl
    exact ⟨member, digest, loaded.symm, keys.1, rfl⟩

/-- A session has its keys, and its password is the one of the digest. There are no keys without a
digest. -/
structure IsRegular (crypto : CryptoPP Pub Priv) (texts : List Str) (s : Installation Pub Priv) :
    Prop where
  running : ∀ r, s.session = some r → r.pass ∈ texts ∧
    s.files[fileDigest]? = some (crypto.makeDigest r.pass) ∧ ∃ pub, r.mAsymKeys = some (pub, r.mLocal)
  unwritten : s.files[fileDigest]? = none →
    s.files.read (KeyLoader.filename crypto.privateTraits fileKey) = []

theorem isRegular_initial : (initial : Installation Pub Priv).IsRegular crypto texts where
  running _ never := nomatch never
  unwritten _ := rfl

theorem unwritten_of_leavesKeys (regular : s.IsRegular crypto texts) {files' : Files}
    (leaves : LeavesKeys s.files files') (none : files'[fileDigest]? = none) :
    files'.read (KeyLoader.filename crypto.privateTraits fileKey) = [] := by
  rw [leaves.read]
  apply regular.unwritten
  by_contra present
  obtain ⟨text, digest⟩ := Option.ne_none_iff_exists'.mp present
  rw [leaves.digest digest] at none
  exact present none

/-- Nobody runs, and at most the digest has been written. -/
theorem IsRegular.idle (regular : s.IsRegular crypto texts) {files' : Files}
    (leaves : LeavesKeys s.files files') :
    IsRegular crypto texts (⟨files', none⟩ : Installation Pub Priv) where
  running _ never := nomatch never
  unwritten := unwritten_of_leavesKeys regular leaves

/-- Nobody runs, and the keys of a session have been written. -/
theorem IsRegular.saved (regular : s.IsRegular crypto texts) {r : Session Pub Priv}
    (running : s.session = some r) {files' : Files}
    (digest : files'[fileDigest]? = s.files[fileDigest]?) :
    IsRegular crypto texts (⟨files', none⟩ : Installation Pub Priv) where
  running _ never := nomatch never
  unwritten none := by
    rw [digest, (regular.running r running).2.1] at none
    cases none

theorem IsRegular.next (regular : s.IsRegular crypto texts) {move : SessionMove Priv}
    (known : ∀ text ∈ move.typed, text ∈ texts) : (s.next crypto move).IsRegular crypto texts := by
  cases move with
  | start typed parameters =>
    rw [Installation.next]
    cases session : s.session with
    | some r => exact regular
    | none =>
      obtain ⟨leaves, started⟩ := start_spec crypto s typed parameters
      refine ⟨fun r running => ?_, unwritten_of_leavesKeys regular leaves⟩
      obtain ⟨member, digest, -, keys⟩ := started r running
      exact ⟨known _ member, digest, keys⟩
  | stopAsking typed filled =>
    unfold Installation.next
    dsimp only
    split
    · rename_i none
      exact regular.idle (.inr ⟨none, _, rfl⟩)
    · exact regular
  | generate parameters =>
    refine ⟨fun r running => ?_, regular.unwritten⟩
    obtain ⟨old, before, rfl⟩ := Option.map_eq_some_iff.mp running
    obtain ⟨member, digest, pub, keys⟩ := regular.running old before
    cases parameters with
    | none => exact ⟨member, digest, pub, keys⟩
    | some parameters => exact ⟨member, digest, _, rfl⟩
  | close =>
    rw [Installation.next]
    cases session : s.session with
    | none => exact regular
    | some r => exact regular.saved session (digest_writeAll r)
  | stopSaving done filled =>
    rw [Installation.next]
    cases session : s.session with
    | none => exact regular
    | some r => exact regular.saved session (digest_writePart r done filled)
  | stop => exact regular.idle (.inl rfl)

/-! ## What is saved -/

/-- The keys that a move saves. -/
def saves (s : Installation Pub Priv) : SessionMove Priv → AsymetricalKeyStore Pub Priv
  | .close => s.session.bind (·.mAsymKeys)
  | _ => none

variable (crypto texts) in
/-- A session would read these keys, or find no file. -/
def Holds (s : Installation Pub Priv) : AsymetricalKeyStore Pub Priv → Prop
  | some keys => (∃ digest, s.files[fileDigest]? = some digest) ∧
    ∀ pass ∈ texts, s.files[fileDigest]? = some (crypto.makeDigest pass) →
      s.stored crypto pass = .ok keys
  | none => s.files.read (KeyLoader.filename crypto.privateTraits fileKey) = []

theorem Holds.leaves {saved : AsymetricalKeyStore Pub Priv} (holds : s.Holds crypto texts saved)
    {s' : Installation Pub Priv} (leaves : LeavesKeys s.files s'.files) :
    s'.Holds crypto texts saved := by
  cases saved with
  | none => exact (leaves.read crypto.privateTraits).trans holds
  | some keys =>
    obtain ⟨⟨digest, kept⟩, reads⟩ := holds
    have same := leaves.digest kept
    refine ⟨⟨digest, same ▸ kept⟩, fun pass member valid => ?_⟩
    rw [same] at valid
    rw [stored, same]
    exact reads pass member valid

variable (crypto) in
/-- What a move does to the files. -/
theorem next_files (s : Installation Pub Priv) (move : SessionMove Priv) :
    (LeavesKeys s.files (s.next crypto move).files ∧ s.saves move = none ∧
        ((∃ done filled, move = .stopSaving done filled) → s.session = none)) ∨
      ∃ r, s.session = some r ∧
        ((move = .close ∧ s.next crypto move = ⟨s.files.writeAll (r.saveKeys crypto), none⟩) ∨
          ∃ done filled, move = .stopSaving done filled ∧
            s.next crypto move = ⟨s.files.writePart (r.saveKeys crypto) done filled, none⟩) := by
  cases session : s.session with
  | none =>
    refine .inl ⟨?_, by cases move <;> simp [saves, session], fun _ => rfl⟩
    cases move with
    | start typed parameters =>
      rw [Installation.next, session]
      exact (start_spec crypto s typed parameters).1
    | stopAsking typed filled =>
      unfold Installation.next
      dsimp only
      split
      · rename_i none
        exact .inr ⟨none, _, rfl⟩
      · exact .inl rfl
    | _ => simp [Installation.next, session, LeavesKeys]
  | some r =>
    cases move with
    | close => exact .inr ⟨r, rfl, .inl ⟨rfl, by rw [Installation.next, session]⟩⟩
    | stopSaving done filled =>
      exact .inr ⟨r, rfl, .inr ⟨done, filled, rfl, by rw [Installation.next, session]⟩⟩
    | _ => exact .inl ⟨.inl (by simp [Installation.next, session]), rfl, by simp⟩

/-- The digest stays. -/
theorem digest_next {digest : Str} (kept : s.files[fileDigest]? = some digest)
    (move : SessionMove Priv) : (s.next crypto move).files[fileDigest]? = some digest := by
  rcases next_files crypto s move with
    ⟨leaves, -⟩ | ⟨r, -, ⟨-, now⟩ | ⟨done, filled, -, now⟩⟩
  · rw [leaves.digest kept]
    exact kept
  · rw [now]
    exact (digest_writeAll r).trans kept
  · rw [now]
    exact (digest_writePart r done filled).trans kept

/-- A move that is not cut off saves keys, or leaves those that are saved. -/
theorem Holds.next (standard : crypto.IsStandard)
    (distinct : ∀ a ∈ texts, ∀ b ∈ texts, crypto.makeDigest a = crypto.makeDigest b → a = b)
    (regular : s.IsRegular crypto texts) {saved : AsymetricalKeyStore Pub Priv}
    (holds : s.Holds crypto texts saved) {move : SessionMove Priv}
    (unbroken : ∀ done filled, move ≠ .stopSaving done filled) :
    (s.next crypto move).Holds crypto texts ((s.saves move).or saved) := by
  rcases next_files crypto s move with
    ⟨leaves, unsaved, -⟩ | ⟨r, running, ⟨rfl, now⟩ | ⟨done, filled, cut, -⟩⟩
  · rw [unsaved, Option.none_or]
    exact holds.leaves leaves
  · obtain ⟨member, digest, pub, keys⟩ := regular.running r running
    have saving : s.saves .close = some (pub, r.mLocal) := by
      rw [saves, running, Option.bind_some, keys]
    rw [now, saving, Option.some_or]
    refine ⟨⟨_, (digest_writeAll r).trans digest⟩, fun pass other valid => ?_⟩
    rw [digest_writeAll, digest] at valid
    obtain rfl := distinct _ other _ member (Option.some.inj valid).symm
    rw [stored, Session.saveKeys, keys]
    exact FileAsyncKeySerializer.deserialize_writeAll standard s.files pub r.mLocal
  · exact absurd cut (unbroken done filled)

end Installation

/-! ## Every run -/

variable (crypto) in
/-- The texts that are typed in a run have different digests. -/
def TellsApart (moves : List (SessionMove Priv)) : Prop :=
  ∀ a ∈ moves.flatMap SessionMove.typed, ∀ b ∈ moves.flatMap SessionMove.typed,
    crypto.makeDigest a = crypto.makeDigest b → a = b

theorem isRegular_after {texts : List Str} {moves : List (SessionMove Priv)}
    (known : ∀ text ∈ moves.flatMap SessionMove.typed, text ∈ texts) :
    (Run.after (Installation.next crypto) .initial moves).IsRegular crypto texts := by
  induction moves using List.reverseRecOn with
  | nil => exact Installation.isRegular_initial
  | append_singleton moves move ih =>
    rw [List.flatMap_append, List.forall_mem_append] at known
    rw [Run.after_append]
    exact (ih known.1).next (by simpa using known.2)

variable (crypto) in
theorem digest_after {s : Installation Pub Priv} {digest : Str}
    (kept : s.files[fileDigest]? = some digest) (moves : List (SessionMove Priv)) :
    (Run.after (Installation.next crypto) s moves).files[fileDigest]? = some digest := by
  induction moves generalizing s with
  | nil => exact kept
  | cons move moves ih => exact ih (Installation.digest_next kept move)

/-- After a run in which no saving has been cut off the files hold the keys of the session that was
closed last. -/
theorem holds_after (standard : crypto.IsStandard) {texts : List Str}
    (distinct : ∀ a ∈ texts, ∀ b ∈ texts, crypto.makeDigest a = crypto.makeDigest b → a = b)
    {moves : List (SessionMove Priv)}
    (known : ∀ text ∈ moves.flatMap SessionMove.typed, text ∈ texts)
    (unbroken : ∀ done filled, .stopSaving done filled ∉ moves) :
    (Run.after (Installation.next crypto) .initial moves).Holds crypto texts
      (Run.latest (Installation.next crypto) Installation.saves .initial moves) := by
  induction moves using List.reverseRecOn with
  | nil => rfl
  | append_singleton moves move ih =>
    have before : ∀ text ∈ moves.flatMap SessionMove.typed, text ∈ texts := by
      rw [List.flatMap_append, List.forall_mem_append] at known
      exact known.1
    have whole : ∀ done filled, move ≠ .stopSaving done filled := by
      rintro done filled rfl
      exact unbroken done filled (by simp)
    have holds := ih before fun done filled member => unbroken done filled (by simp [member])
    rw [Run.after_append, Run.latest_concat]
    exact holds.next standard distinct (isRegular_after before) whole

/-- A session that starts in a run in which no saving has been cut off has the keys of the session that
was closed last, or new ones if none has been closed yet. -/
theorem sessions_keep_keys (standard : crypto.IsStandard) (moves : List (SessionMove Priv))
    (unbroken : ∀ done filled, .stopSaving done filled ∉ moves) (typed : List Str)
    (parameters : Option Priv) (distinct : TellsApart crypto (moves ++ [.start typed parameters]))
    (idle : (Run.after (Installation.next crypto) .initial moves).session = none)
    {session : Session Pub Priv}
    (started : (Run.after (Installation.next crypto) .initial
      (moves ++ [.start typed parameters])).session = some session) :
    session.mAsymKeys =
      (Run.latest (Installation.next crypto) Installation.saves .initial moves).or
        (parameters.map fun priv => (crypto.publicKey priv, priv)) := by
  have known : ∀ text ∈ moves.flatMap SessionMove.typed,
      text ∈ (moves ++ [SessionMove.start typed parameters]).flatMap SessionMove.typed := by
    intro text typed
    rw [List.flatMap_append]
    exact List.mem_append_left _ typed
  have holds := holds_after standard distinct known unbroken
  rw [Run.after_append] at started
  generalize Run.after (Installation.next crypto) .initial moves = s at *
  have now : Run.after (Installation.next crypto) s [.start typed parameters] =
      s.start crypto typed parameters := by
    simp [Run.after, Installation.next, idle]
  rw [now] at started
  obtain ⟨leaves, starts⟩ := Installation.start_spec crypto s typed parameters
  obtain ⟨member, digest, loaded, -⟩ := starts session started
  have member' : session.pass ∈
      (moves ++ [SessionMove.start typed parameters]).flatMap SessionMove.typed := by
    simp only [List.mem_flatMap, List.mem_append, List.mem_singleton]
    exact ⟨_, .inr rfl, member⟩
  rw [loaded, loadKeys]
  cases saved : Run.latest (Installation.next crypto) Installation.saves .initial moves with
  | some keys =>
    rw [saved] at holds
    have reads := (holds.leaves leaves).2 _ member' digest
    rw [Installation.stored] at reads
    rw [reads, Option.some_or]
  | none =>
    rw [saved] at holds
    have absent := holds.leaves leaves
    cases reads : FileAsyncKeySerializer.deserialize crypto fileKey
        (crypto.makeForStringPass session.pass) (s.start crypto typed parameters).files with
    | ok keys => exact absurd reads (FileAsyncKeySerializer.deserialize_ne_ok standard absent keys)
    | error e => cases parameters <;> rfl

namespace Sample

/-- Keys are made in the first session, and the window is closed. The second session ends without
that. -/
def sessions : List (SessionMove KeyText) :=
  [.start [str "secret"] (some ⟨[1], by decide⟩), .generate (some ⟨[2, 3], by decide⟩), .close,
    .start [str "Secret", str "secret"] none, .generate (some ⟨[4], by decide⟩), .stop]

/-- The keys that are saved. -/
theorem latest_sessions : Run.latest (Installation.next keyCrypto) Installation.saves .initial
    sessions = some (⟨[3, 2], by decide⟩, ⟨[2, 3], by decide⟩) := by
  decide +kernel

/-- The third session starts. -/
theorem isSome_sessions : (Run.after (Installation.next keyCrypto) .initial
    (sessions ++ [.start [str "secret"] none])).session.isSome = true := by
  decide +kernel

end Sample

/-- The third session has the keys of the first one. -/
theorem sample_sessions_keep_keys :
    ∃ session, (Run.after (Installation.next Sample.keyCrypto) .initial
        (Sample.sessions ++ [.start [str "secret"] none])).session = some session ∧
      session.mAsymKeys = some (⟨[3, 2], by decide⟩, ⟨[2, 3], by decide⟩) := by
  obtain ⟨session, started⟩ := Option.isSome_iff_exists.mp Sample.isSome_sessions
  have keeps := sessions_keep_keys Sample.isStandard_keyCrypto Sample.sessions
    (by simp [Sample.sessions]) [str "secret"] none (fun _ _ _ _ same => same) (by decide +kernel)
    started
  rw [Sample.latest_sessions] at keeps
  exact ⟨session, started, keeps⟩

/-- All sessions of an installation have one password. -/
theorem sessions_share_password (before later : List (SessionMove Priv))
    (distinct : TellsApart crypto (before ++ later)) {first second : Session Pub Priv}
    (running : (Run.after (Installation.next crypto) .initial before).session = some first)
    (running' : (Run.after (Installation.next crypto) .initial (before ++ later)).session =
      some second) :
    first.pass = second.pass := by
  have known : ∀ text ∈ before.flatMap SessionMove.typed,
      text ∈ (before ++ later).flatMap SessionMove.typed := by
    intro text typed
    rw [List.flatMap_append]
    exact List.mem_append_left _ typed
  obtain ⟨member, digest, -⟩ := (isRegular_after known).running first running
  obtain ⟨member', digest', -⟩ := (isRegular_after fun _ typed => typed).running second running'
  apply distinct _ member _ member'
  have lasts := digest_after crypto digest later
  rw [← Run.after_append] at lasts
  exact Option.some.inj (lasts.symm.trans digest')

/-- The second and the third session. -/
theorem sample_sessions_share_password :
    ∃ first second, (Run.after (Installation.next Sample.keyCrypto) .initial
        (Sample.sessions.take 4)).session = some first ∧
      (Run.after (Installation.next Sample.keyCrypto) .initial (Sample.sessions.take 4 ++
        (Sample.sessions.drop 4 ++ [.start [str "secret"] none]))).session = some second ∧
      first.pass = second.pass := by
  have second : (Run.after (Installation.next Sample.keyCrypto) .initial
      (Sample.sessions.take 4)).session.isSome = true := by decide +kernel
  obtain ⟨first, running⟩ := Option.isSome_iff_exists.mp second
  obtain ⟨second, running'⟩ := Option.isSome_iff_exists.mp Sample.isSome_sessions
  rw [← List.take_append_drop 4 Sample.sessions, List.append_assoc] at running'
  have distinct : TellsApart Sample.keyCrypto (Sample.sessions.take 4 ++
      (Sample.sessions.drop 4 ++ [.start [str "secret"] none])) := fun _ _ _ _ same => same
  have shares := sessions_share_password _ _ distinct running running'
  exact ⟨first, second, running, running', shares⟩

end SecureDialogues
