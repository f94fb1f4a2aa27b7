import SecureDialogues.Protocol.Despatching

/-!
# Introductions of strangers

A CONTACT_DISCOVER from an address without a registered contact reaches the error sink inside
`MessageDespatcher::isSignatureValid`, which is `noexcept`. The sink cuts the content at the first
character that occurs in the delimiter, where `find_first_of` stands for `find`, and stores the
stranger under the identifier of the message; each step can throw.
-/

namespace SecureDialogues

open Text Effect

section

variable {w : Nat}

/-- No contact is registered under the address. -/
def IsStranger (mRemote : Table RemoteElement) (adress : Str) : Prop :=
  ∀ element ∈ mRemote.toList, element.2.addres ≠ adress

instance (mRemote : Table RemoteElement) (adress : Str) : Decidable (IsStranger mRemote adress) :=
  inferInstanceAs (Decidable (∀ element ∈ mRemote.toList, _))

/-- A message that introduces a stranger to a running program. -/
structure Introduces (s : Core w) (message : DialogMessage w) : Prop where
  running : s.alive = true
  action : message.mAction = .contactDiscover
  stranger : IsStranger s.mRemote message.mAdress

variable (p : Platform w)

/-- The despatcher returns from a stranger's introduction. -/
def SurvivesDiscovery (s : Core w) (step : Step w) : Prop :=
  match step.2 with
  | .dispatch message channel => Introduces s message →
      (dispatch p step.1 message channel s).1 = .ok ()
  | _ => True

/-- A stranger's introduction can be acknowledged, has a name with a delimiter behind it, and comes
under an identifier that no stranger has yet. -/
def WellIntroduced (s : Core w) (step : Step w) : Prop :=
  match step.2 with
  | .dispatch message channel => Introduces s message →
      Acknowledges step.1 s message channel ∧ HasName message.mContent ∧
        message.mDialogId ∉ s.mDiscoveredStorage
  | _ => True

variable {p} {env : Env w} {message : DialogMessage w} {channel : Str}

theorem getRemoteByAdress_of_stranger {mRemote : Table RemoteElement} {adress : Str}
    (stranger : IsStranger mRemote adress) :
    ∃ e, getRemoteByAdress p mRemote adress = .error e ∧ e.kind = .rangeError := by
  have unknown : (mRemote.toList.find? fun element => element.2.addres == adress) = none := by
    apply List.find?_eq_none.mpr
    intro element member
    simpa using stranger element member
  rw [getRemoteByAdress, unknown]
  exact ⟨_, rfl, rfl⟩

/-- No key is found for a stranger. -/
theorem isUnregistered_of_stranger {s : Core w} (stranger : IsStranger s.mRemote message.mAdress) :
    IsUnregistered p s message := by
  obtain ⟨e, unknown, kind⟩ := getRemoteByAdress_of_stranger (p := p) stranger
  refine ⟨e, ?_, kind⟩
  rw [isSignatureOk, unknown]
  rfl

/-- The despatcher returns from a stranger's introduction exactly if it can be acknowledged and
kept. -/
theorem dispatch_introduction {s : Core w} (introduces : Introduces s message) :
    (dispatch p env message channel s).1 = .ok () ↔
      Acknowledges env s message channel ∧ HasName message.mContent ∧
        message.mDialogId ∉ s.mDiscoveredStorage := by
  have unregistered := isUnregistered_of_stranger (p := p) introduces.stranger
  have noAck : message.mAction ≠ .ack := by
    rw [introduces.action]
    decide
  have refused : ¬ Delivered p env s message channel := by
    intro delivered
    obtain ⟨e, invalid, -⟩ := unregistered
    have valid := delivered.signatureOk
    rw [invalid] at valid
    cases valid
  have kept : ¬ SinkThrows p s message ↔
      HasName message.mContent ∧ message.mDialogId ∉ s.mDiscoveredStorage := by
    constructor
    · intro returns
      by_contra unkept
      exact returns ⟨introduces.action, unregistered, unkept⟩
    · exact fun kept throws => throws.unkept kept
  rw [dispatch_returns_iff noAck, dispatchMessage_returns_iff refused, kept]

theorem survivesDiscovery_iff (s : Core w) (step : Step w) :
    SurvivesDiscovery p s step ↔ WellIntroduced s step := by
  obtain ⟨env, input⟩ := step
  unfold SurvivesDiscovery WellIntroduced
  cases input with
  | dispatch message channel =>
    apply forall_congr'
    intro introduces
    exact dispatch_introduction introduces
  | _ => exact Iff.rfl

/-- At every step of every run, the program survives a stranger's introduction exactly under these
conditions. -/
theorem discovery_survived_iff (p : Platform w) (steps : List (Step w)) :
    Run.Along (next p) (fun s step => SurvivesDiscovery p s step ↔ WellIntroduced s step)
      Core.initial steps :=
  Run.along_of_forall survivesDiscovery_iff Core.initial steps

end

/-- A stranger introduces himself with an empty content. -/
theorem empty_introduction_terminates :
    ¬ SurvivesDiscovery Sample.platform (Sample.run Sample.connect)
      (Sample.env, .dispatch
        { Sample.incoming .contactDiscover 1 [] with mAdress := str "stranger" } Sample.channel) := by
  intro survives
  have returns := survives ⟨by decide +kernel, rfl, by decide +kernel⟩
  revert returns
  decide +kernel

end SecureDialogues
