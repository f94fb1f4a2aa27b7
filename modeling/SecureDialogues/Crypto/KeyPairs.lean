import SecureDialogues.Crypto.Sessions

/-!
# Pairs of own keys

The public key that an installation shows belongs to the private key that it signs with, unless a saving
has been cut off between the files of the two.
-/

namespace SecureDialogues

open Text

variable {Pub Priv : Type} {crypto : CryptoPP Pub Priv}

namespace Installation

variable {s : Installation Pub Priv} {texts : List Str}

variable (crypto texts) in
/-- The public key belongs to the private key, in a running session and in the files. -/
structure IsMatched (s : Installation Pub Priv) : Prop where
  session : ∀ r, s.session = some r → ∀ keys, r.mAsymKeys = some keys →
    keys.1 = crypto.publicKey r.mLocal
  files : ∀ pass ∈ texts, s.files[fileDigest]? = some (crypto.makeDigest pass) →
    ∀ keys, s.stored crypto pass = .ok keys → keys.1 = crypto.publicKey keys.2

variable (crypto) in
/-- The saving is not cut off between the two files, with another private key in the second one. -/
def KeepsPair (s : Installation Pub Priv) : SessionMove Priv → Prop
  | .stopSaving 0 filled => ∀ r keys priv, s.session = some r → r.mAsymKeys = some keys →
      KeyLoader.IsWhole crypto.publicTraits crypto.aes fileKey (crypto.makeForStringPass r.pass) keys.1
        filled →
      KeyLoader.loadKey crypto.privateTraits crypto.aes fileKey (crypto.makeForStringPass r.pass)
        s.files = .ok priv →
      keys.1 = crypto.publicKey priv
  | _ => True

theorem isMatched_initial : (initial : Installation Pub Priv).IsMatched crypto texts where
  session _ never := nomatch never
  files _ _ never := nomatch never

/-- Where at most the digest is written, the pair in the files stays. -/
theorem IsMatched.stored_leaves (standard : crypto.IsStandard) (regular : s.IsRegular crypto texts)
    (matched : s.IsMatched crypto texts) {s' : Installation Pub Priv}
    (leaves : LeavesKeys s.files s'.files) {pass : Str} (member : pass ∈ texts)
    (digest : s'.files[fileDigest]? = some (crypto.makeDigest pass)) {keys : Pub × Priv}
    (reads : s'.stored crypto pass = .ok keys) : keys.1 = crypto.publicKey keys.2 := by
  rw [stored, leaves.deserialize] at reads
  rcases leaves with same | ⟨none, -⟩
  · rw [same] at digest
    exact matched.files pass member digest keys reads
  · exact absurd reads (FileAsyncKeySerializer.deserialize_ne_ok standard (regular.unwritten none) keys)

/-- Keys that are read or made belong together. -/
theorem loadKeys_matched {files : Files} {pass : Str} {parameters : Option Priv}
    (reads : ∀ keys, FileAsyncKeySerializer.deserialize crypto fileKey (crypto.makeForStringPass pass)
      files = .ok keys → keys.1 = crypto.publicKey keys.2) {keys : Pub × Priv}
    (loaded : loadKeys crypto files pass parameters = some keys) :
    keys.1 = crypto.publicKey keys.2 := by
  rw [loadKeys] at loaded
  cases outcome : FileAsyncKeySerializer.deserialize crypto fileKey (crypto.makeForStringPass pass)
      files with
  | ok stored =>
    rw [outcome] at loaded
    cases loaded
    exact reads keys outcome
  | error e =>
    rw [outcome] at loaded
    cases parameters with
    | none => cases loaded
    | some parameters =>
      cases loaded
      rfl

/-- Whoever runs after a move has a matching pair. -/
theorem IsMatched.session_next (standard : crypto.IsStandard) (regular : s.IsRegular crypto texts)
    (matched : s.IsMatched crypto texts) {move : SessionMove Priv}
    (known : ∀ text ∈ move.typed, text ∈ texts) {r : Session Pub Priv}
    (running : (s.next crypto move).session = some r) {keys : Pub × Priv}
    (own : r.mAsymKeys = some keys) : keys.1 = crypto.publicKey r.mLocal := by
  cases session : s.session with
  | none =>
    cases move with
    | start typed parameters =>
      rw [Installation.next, session] at running
      obtain ⟨leaves, started⟩ := start_spec crypto s typed parameters
      obtain ⟨member, digest, loaded, pub, signs⟩ := started r running
      have pair : keys = (pub, r.mLocal) := Option.some.inj (own.symm.trans signs)
      rw [pair] at own ⊢
      apply loadKeys_matched _ (loaded.symm.trans own)
      intro keys reads
      exact matched.stored_leaves standard regular leaves (known _ member) digest reads
    | stopAsking typed filled =>
      unfold Installation.next at running
      dsimp only at running
      split at running
      · cases running
      · rw [session] at running
        cases running
    | _ => simp [Installation.next, session] at running
  | some old =>
    cases move with
    | generate parameters =>
      rw [Installation.next, session] at running
      obtain rfl := Option.some.inj running
      cases parameters with
      | none => exact matched.session old session keys own
      | some parameters =>
        cases own
        rfl
    | start typed parameters =>
      rw [Installation.next, session] at running
      exact matched.session r running keys own
    | stopAsking typed filled =>
      have stays : s.next crypto (.stopAsking typed filled) = s := by simp [Installation.next, session]
      rw [stays] at running
      exact matched.session r running keys own
    | _ => simp [Installation.next, session] at running

/-- Nobody runs, and the digest is that of the session before. -/
theorem isMatched_iff
    (distinct : ∀ a ∈ texts, ∀ b ∈ texts, crypto.makeDigest a = crypto.makeDigest b → a = b)
    {pass : Str} (member : pass ∈ texts) {files : Files}
    (digest : files[fileDigest]? = some (crypto.makeDigest pass)) :
    IsMatched crypto texts (⟨files, none⟩ : Installation Pub Priv) ↔
      ∀ keys, FileAsyncKeySerializer.deserialize crypto fileKey (crypto.makeForStringPass pass) files =
        .ok keys → keys.1 = crypto.publicKey keys.2 := by
  constructor
  · intro matched
    exact matched.files pass member digest
  · intro reads
    refine ⟨fun _ never => (nomatch never), fun other member' digest' => ?_⟩
    obtain rfl := distinct _ member _ member' (Option.some.inj (digest.symm.trans digest'))
    exact reads

/-- What a cut off saving has left is a pair if the pair was kept. -/
theorem isMatched_writePart_iff (standard : crypto.IsStandard)
    (distinct : ∀ a ∈ texts, ∀ b ∈ texts, crypto.makeDigest a = crypto.makeDigest b → a = b)
    (regular : s.IsRegular crypto texts) (matched : s.IsMatched crypto texts) {r : Session Pub Priv}
    (running : s.session = some r) (done filled : Nat) :
    IsMatched crypto texts ⟨s.files.writePart (r.saveKeys crypto) done filled, none⟩ ↔
      s.KeepsPair crypto (.stopSaving done filled) := by
  obtain ⟨member, digest, pub, own⟩ := regular.running r running
  have pair : pub = crypto.publicKey r.mLocal := matched.session r running _ own
  have writes : r.saveKeys crypto =
      FileAsyncKeySerializer.serialize crypto fileKey (crypto.makeForStringPass r.pass) pub r.mLocal := by
    rw [Session.saveKeys, own]
  rw [isMatched_iff distinct member ((digest_writePart r done filled).trans digest), writes]
  rcases done with _ | _ | done
  · simp only [FileAsyncKeySerializer.deserialize_publicPart standard, KeepsPair]
    constructor
    · intro reads r' keys priv running' own' whole loaded
      obtain rfl := Option.some.inj (running.symm.trans running')
      obtain rfl := Option.some.inj (own.symm.trans own')
      exact reads (pub, priv) ⟨loaded, whole, rfl⟩
    · rintro keeps keys ⟨loaded, whole, rfl⟩
      exact keeps r (keys.1, r.mLocal) keys.2 running own whole loaded
  · simp only [zero_add, FileAsyncKeySerializer.deserialize_privatePart standard, KeepsPair, iff_true]
    rintro keys ⟨-, rfl⟩
    exact pair
  · simp only [KeepsPair, iff_true]
    intro keys reads
    rw [Files.writePart, List.getElem?_eq_none (by simp [FileAsyncKeySerializer.serialize])] at reads
    cases reads.symm.trans (FileAsyncKeySerializer.deserialize_writeAll standard s.files pub r.mLocal)
    exact pair

theorem isMatched_next_iff (standard : crypto.IsStandard)
    (distinct : ∀ a ∈ texts, ∀ b ∈ texts, crypto.makeDigest a = crypto.makeDigest b → a = b)
    (regular : s.IsRegular crypto texts) (matched : s.IsMatched crypto texts) {move : SessionMove Priv}
    (known : ∀ text ∈ move.typed, text ∈ texts) :
    (s.next crypto move).IsMatched crypto texts ↔ s.KeepsPair crypto move := by
  rcases next_files crypto s move with
    ⟨leaves, -, idle⟩ | ⟨r, running, ⟨rfl, now⟩ | ⟨done, filled, rfl, now⟩⟩
  · refine iff_of_true ⟨fun r running keys own => ?_, fun pass member digest keys reads => ?_⟩ ?_
    · exact matched.session_next standard regular known running own
    · exact matched.stored_leaves standard regular leaves member digest reads
    · unfold KeepsPair
      split
      · intro r keys priv running
        rw [idle ⟨_, _, rfl⟩] at running
        cases running
      · trivial
  · obtain ⟨member, digest, pub, own⟩ := regular.running r running
    refine iff_of_true ?_ trivial
    rw [now, isMatched_iff distinct member ((digest_writeAll r).trans digest), Session.saveKeys, own]
    intro keys reads
    rw [FileAsyncKeySerializer.deserialize_writeAll standard] at reads
    cases reads
    exact matched.session r running _ own
  · rw [now]
    exact isMatched_writePart_iff standard distinct regular matched running done filled

end Installation

/-- In every run, whoever shows a public key signs with the private key that belongs to it, also after
a restart, exactly if no saving is cut off between the files of the two keys while the file of the private
key holds another one. -/
theorem keys_match_iff (standard : crypto.IsStandard) (moves : List (SessionMove Priv))
    (distinct : TellsApart crypto moves) :
    Run.Along (Installation.next crypto)
        (fun s move => (s.next crypto move).IsMatched crypto (moves.flatMap SessionMove.typed))
        .initial moves ↔
      Run.Along (Installation.next crypto) (Installation.KeepsPair crypto) .initial moves := by
  apply Run.along_iff_along_of (I := Installation.IsRegular crypto _)
    (K := fun _ move => ∀ text ∈ move.typed, text ∈ moves.flatMap SessionMove.typed)
  · intro s move regular known
    exact regular.next known
  · intro s move regular known matched
    exact Installation.isMatched_next_iff standard distinct regular matched known
  · exact Installation.isRegular_initial
  · exact Installation.isMatched_initial
  · apply Run.along_of_mem
    intro move member text typed
    exact List.mem_flatMap.mpr ⟨move, member, typed⟩

namespace Sample

/-- New keys are made, and the program ends when the file of the public key has been written. -/
def cutSessions : List (SessionMove KeyText) :=
  [.start [str "secret"] (some ⟨[1, 2], by decide⟩), .close, .start [str "secret"] none,
    .generate (some ⟨[3, 4], by decide⟩), .stopSaving 0 9]

end Sample

/-- Then the public key and the private key do not belong together. -/
theorem sample_keys_match_iff :
    ¬ Run.Along (Installation.next Sample.keyCrypto)
      (fun s move => (s.next Sample.keyCrypto move).IsMatched Sample.keyCrypto
        (Sample.cutSessions.flatMap SessionMove.typed)) .initial Sample.cutSessions := by
  rw [keys_match_iff Sample.isStandard_keyCrypto Sample.cutSessions fun _ _ _ _ same => same]
  rintro ⟨-, -, -, -, keeps, -⟩
  have differs := keeps _ _ ⟨[1, 2], by decide⟩ rfl rfl (by decide +kernel) (by decide +kernel)
  revert differs
  decide +kernel

end SecureDialogues
