import SecureDialogues.Step
import SecureDialogues.Utils.MessageMarshallerProps

/-!
# The way of a contact's name and key

`DiscoverContactAgent::discover` puts the own name and key into one content, with a delimiter
between them. `getNameAndPublickKey` looks for the first character that occurs in the delimiter,
where `find_first_of` stands for `find`.
-/

namespace SecureDialogues

open Text Effect DiscoverContactAgent

/-! ## What is published -/

/-- A public key as `serialize` exports it: Base64 in lines (`serializations.cpp:66-74`). -/
structure ExportedKey where
  text : Str
  base64 : IsBase64Text text
  filled : ∃ c ∈ text, isBase64 c = true

/-- The outside world of a publication: the receiver's address and what the libraries hand out, an
identifier and a signature in Base64. -/
structure Publication (w : Nat) where
  env : Env w
  number : BitVec 32
  key : ExportedKey
  address : Str
  sign : Str
  named : env.makeUiid ≠ []
  uiidBase64 : ∀ c ∈ env.makeUiid, isBase64 c = true
  signBase64 : IsBase64Text sign
  signBegins : sign.head? ≠ some newline

section

variable {w : Nat}

/-- The message that `discover` sends for a name. -/
def Publication.message (publication : Publication w) (name : Str) : DialogMessage w :=
  (discoverMessage publication.env publication.number name publication.key.text
    publication.address).setSignature publication.sign

/-- The error sink stores a contact with the name and the key under the identifier of the message,
where there is none yet. -/
def Stores (p : Platform w) (message : DialogMessage w) (name key : Str) : Prop :=
  ∀ (env : Env w) (channel : Str) (s : Core w), message.mDialogId ∉ s.mDiscoveredStorage →
    ∃ contact, (despatchError p env .contactNotFound message channel s).2.mDiscoveredStorage[
      message.mDialogId]? = some contact ∧ contact.name = name ∧ contact.publicKey = key

/-- The receiver reads the name and the key that were sent, from the message itself and from what
comes over the wire. -/
structure ReadsBack (p : Platform w) (publication : Publication w) (name : Str) : Prop where
  direct : getNameAndPublickKey p (publication.message name).mContent =
    .ok (name, publication.key.text)
  wired : ∀ (stack : Action × BitVec w) (sender : Str), ∃ received key,
    unmarshall stack (marshall (publication.message name)) sender = some received ∧
    OnlyTrailingSpaceRemoved publication.key.text key ∧
    getNameAndPublickKey p received.mContent = .ok (name, key) ∧ Stores p received name key

/-- A name without a line feed, a dash or a NUL. -/
structure IsPlainName (name : Str) : Prop where
  noBreak : newline ∉ name
  noDash : 45 ∉ name
  clean : 0 ∉ name

/-! ## Splitting -/

theorem contentDelitimer_eq :
    contentDelitimer = newline :: (List.replicate 30 45 ++ [newline]) := by
  decide

theorem mem_contentDelitimer {c : UInt8} : c ∈ contentDelitimer ↔ c = newline ∨ c = 45 := by
  rw [contentDelitimer_eq]
  simp
  tauto

variable (p : Platform w) {name key : Str}

theorem getNameAndPublickKey_delitimer (plain : ∀ c ∈ name, c ∉ contentDelitimer) :
    getNameAndPublickKey p (name ++ contentDelitimer ++ key) = .ok (name, key) := by
  have split : (name ++ contentDelitimer ++ key).takeWhile (fun c => c ∉ contentDelitimer) =
      name := by
    rw [List.append_assoc, List.takeWhile_append_of_pos (by simpa using plain)]
    conv_lhs => rw [contentDelitimer_eq]
    simp
  have filled : 0 < contentDelitimer.length := by decide
  have length : (name ++ contentDelitimer ++ key).length =
      name.length + contentDelitimer.length + key.length := by
    simp [Nat.add_assoc]
  rw [getNameAndPublickKey, split, if_neg (by omega), if_neg (by omega), ← List.length_append,
    List.drop_left']
  rfl

variable {p}

/-- The name that is read is a piece of the content without characters of the delimiter. -/
theorem of_getNameAndPublickKey {content : Str}
    (read : getNameAndPublickKey p content = .ok (name, key)) :
    (∀ c ∈ name, c ∉ contentDelitimer) ∧ name ⊆ content := by
  unfold getNameAndPublickKey at read
  dsimp only at read
  split at read
  · cases read
  split at read
  · cases read
  · cases read
    refine ⟨?_, (List.takeWhile_prefix _).subset⟩
    intro c member
    simpa using List.mem_takeWhile_imp member

/-! ## The wire -/

theorem ExportedKey.notMem {c : UInt8} (key : ExportedKey)
    (foreign : ¬ (isBase64 c = true ∨ c = newline)) : c ∉ key.text := by
  intro member
  exact foreign (key.base64.2 c member)

theorem isspace_of_isBase64 {c : UInt8} (base64 : isBase64 c = true) : isspace c = false := by
  by_contra blank
  simp only [isspace, isBase64, isdigit, Bool.not_eq_false, Bool.or_eq_true, Bool.and_eq_true,
    decide_eq_true_eq, beq_iff_eq, UInt8.le_iff_toNat_le, ← UInt8.toNat_inj] at base64 blank
  simp at base64 blank
  omega

/-- Only trailing white space of the key is lost. -/
theorem rstrip_append_of_filled (start : Str) (filled : ∃ c ∈ key, isspace c = false) :
    rstrip (start ++ key) = start ++ rstrip key := by
  obtain ⟨c, member, black⟩ := filled
  have kept : key.reverse.dropWhile isspace ≠ [] := by
    rw [Ne, List.dropWhile_eq_nil_iff]
    intro blank
    rw [blank c (List.mem_reverse.mpr member)] at black
    cases black
  rw [rstrip, rstrip, List.rdropWhile, List.rdropWhile, List.reverse_append, List.dropWhile_append,
    if_neg (by simpa using kept), List.reverse_append, List.reverse_reverse]

/-- A line of a text consists of its characters. -/
theorem subset_of_mem_getlines {s line : Str} (member : line ∈ getlines s) : line ⊆ s := by
  intro c inLine
  have inLines : c ∈ unlines (getlines s) :=
    List.mem_flatMap.mpr ⟨line, member, List.mem_append_left _ inLine⟩
  have noBreak : c ≠ newline := by
    rintro rfl
    exact newline_notMem_of_mem_getlines member inLine
  rw [unlines_getlines] at inLines
  split at inLines
  · exact inLines
  · simpa [noBreak] using inLines

/-- The content of a plain name comes back up to the white space at its end. -/
theorem readContent_introduction (plain : IsPlainName name) (key : ExportedKey) :
    readContent (trimmed (name ++ contentDelitimer ++ key.text)) =
      name ++ contentDelitimer ++ rstrip key.text := by
  have filled : ∃ c ∈ key.text, isspace c = false := by
    obtain ⟨c, member, base64⟩ := key.filled
    exact ⟨c, member, isspace_of_isBase64 base64⟩
  have kept : rstrip (name ++ contentDelitimer ++ key.text) =
      name ++ contentDelitimer ++ rstrip key.text := rstrip_append_of_filled _ filled
  have rest : rstrip key.text ⊆ key.text := (List.rdropWhile_prefix isspace key.text).subset
  have clean : 0 ∉ name ++ contentDelitimer ++ key.text := by
    simp only [List.mem_append, not_or]
    exact ⟨⟨plain.clean, by decide⟩, key.notMem (by decide)⟩
  have cleanRest : 0 ∉ name ++ contentDelitimer ++ rstrip key.text := by
    rw [← kept]
    intro member
    exact clean ((List.rdropWhile_prefix isspace _).subset member)
  have lines : getlines (name ++ contentDelitimer ++ rstrip key.text) =
      name :: List.replicate 30 45 :: getlines (rstrip key.text) := by
    rw [contentDelitimer_eq, List.append_assoc, List.cons_append, getlines_line plain.noBreak,
      List.append_assoc, List.singleton_append, getlines_line (by decide)]
  have noDelitimer : bodyDelitimer ∉ getlines (name ++ contentDelitimer ++ rstrip key.text) := by
    have dash : 45 ∈ bodyDelitimer := by decide
    rw [lines, List.mem_cons, List.mem_cons, not_or, not_or]
    refine ⟨?_, by decide, ?_⟩
    · intro same
      exact plain.noDash (same ▸ dash)
    · intro member
      exact key.notMem (by decide) (rest (subset_of_mem_getlines member dash))
  rw [trimmed_of_clean clean, kept, readContent_of_noDelitimer cleanRest noDelitimer, ← kept,
    rstrip_idempotent]

/-- The message that arrives. -/
theorem Publication.unmarshall_message (publication : Publication w) (name : Str)
    (stack : Action × BitVec w) (sender : Str) :
    unmarshall stack (marshall (publication.message name)) sender =
      some { publication.message name with
        mAdress := sender
        mContent := readContent (trimmed (publication.message name).mContent) } := by
  have noBreak : newline ∉ (publication.message name).mDialogId := by
    intro member
    exact absurd (publication.uiidBase64 newline member) (by decide)
  have parsed := unmarshall_printMessage stack noBreak publication.signBase64.noDelitimer sender
  refine Eq.trans parsed (if_neg ?_)
  rintro (unnamed | unsigned | broken)
  · exact publication.named unnamed
  · exact publication.signBase64.1 unsigned
  · exact publication.signBegins broken

/-- The sink stores what it reads. -/
theorem stores_of_getNameAndPublickKey {message : DialogMessage w}
    (action : message.mAction = .contactDiscover)
    (read : getNameAndPublickKey p message.mContent = .ok (name, key)) :
    Stores p message name key := by
  intro env channel s new
  refine ⟨⟨env.systemClock, channel, message.mAdress, key, name, message.mDialogId⟩, ?_, rfl, rfl⟩
  simp only [despatchError]
  rw [if_pos action, Eff.readsOr_bind, read]
  simp only [Eff.reads_bind]
  rw [if_neg new]
  exact Std.ExtTreeMap.getElem?_insert_self

/-! ## The round trip -/

/-- Name and key come back for every key exactly if the name has no line feed, no dash and no
NUL. -/
theorem introduction_readsBack_iff (p : Platform w) (publication : Publication w) (name : Str) :
    ReadsBack p publication name ↔ IsPlainName name := by
  constructor
  · intro reads
    obtain ⟨free, -⟩ := of_getNameAndPublickKey reads.direct
    obtain ⟨received, key, parsed, -, read, -⟩ := reads.wired (.ack, 0) []
    rw [publication.unmarshall_message] at parsed
    cases parsed
    obtain ⟨-, within⟩ := of_getNameAndPublickKey read
    refine ⟨?_, ?_, ?_⟩
    · intro member
      exact free newline member (mem_contentDelitimer.mpr (.inl rfl))
    · intro member
      exact free 45 member (mem_contentDelitimer.mpr (.inr rfl))
    · intro member
      exact zero_notMem_trimmed _ (within member)
  · intro plain
    have free : ∀ c ∈ name, c ∉ contentDelitimer := by
      intro c member delitimer
      rcases mem_contentDelitimer.mp delitimer with rfl | rfl
      · exact plain.noBreak member
      · exact plain.noDash member
    refine ⟨getNameAndPublickKey_delitimer p free, ?_⟩
    intro stack sender
    have read : getNameAndPublickKey p (readContent (trimmed (publication.message name).mContent)) =
        .ok (name, rstrip publication.key.text) := by
      show getNameAndPublickKey p (readContent (trimmed
        (name ++ contentDelitimer ++ publication.key.text))) = _
      rw [readContent_introduction plain, getNameAndPublickKey_delitimer p free]
    refine ⟨_, rstrip publication.key.text, publication.unmarshall_message name stack sender,
      exists_rstrip_append _, read, ?_⟩
    exact stores_of_getNameAndPublickKey rfl read

end

/-- A publication with a short key. -/
def Sample.publication : Publication 64 where
  env := Sample.env
  number := 7
  key := ⟨str "MIIB\n", by decide +kernel, 77, by decide +kernel⟩
  address := Sample.peer.adress
  sign := str "c2lnbg=="
  named := by decide +kernel
  uiidBase64 := by decide +kernel
  signBase64 := by decide +kernel
  signBegins := by decide +kernel

/-- The name ends at its dash. -/
theorem dashedName_not_readsBack :
    ¬ contentDelitimer <:+: str "Jean-Pierre" ∧
      ¬ ReadsBack Sample.platform Sample.publication (str "Jean-Pierre") := by
  refine ⟨by decide, ?_⟩
  intro reads
  obtain ⟨free, -⟩ := of_getNameAndPublickKey reads.direct
  exact free 45 (by decide) (by decide)

end SecureDialogues
