import SecureDialogues.Lib.Run
import SecureDialogues.Protocol.Despatching

/-!
# Unauthenticated and stale messages

`MessageDespatcher::dispatch` checks the signature and the age of every message but an ACK, and
takes the age in the arithmetic of `long`. So a forged ACK ends a delivery, and a timestamp so far
back that the age does not fit counts as recent.
-/

namespace SecureDialogues

open Text Effect

section

variable {w : Nat}

/-- How long ago the message was made, in seconds. -/
def age (env : Env w) (message : DialogMessage w) : Int :=
  env.getTimestamp.toInt - message.mTimestamp.toInt

/-- The message was made more than `MAX_TIMESTAMP_DIFF` seconds before now. -/
def IsStale (env : Env w) (message : DialogMessage w) : Prop := maxTimestampDiff < age env message

/-- The age is no number of the type `long`. -/
def AgeOverflows (env : Env w) (message : DialogMessage w) : Prop :=
  (2 : Int) ^ (w - 1) ≤ age env message

variable (p : Platform w)

/-- The signature is not valid under the key registered for the sender's address. -/
def IsUnauthentic (s : Core w) (message : DialogMessage w) : Prop :=
  isSignatureOk p s.mRemote message ≠ .ok true

/-- An unauthenticated or stale message changes nothing, and does not end the program. -/
def DiscardsUnauthentic (s : Core w) (step : Step w) : Prop :=
  match step.2 with
  | .dispatch message _ => IsUnauthentic p s message ∨ IsStale step.1 message →
      Unaffected s (next p s step)
  | _ => True

/-- An unauthenticated or stale ACK is for no pending delivery. Any other such message can be
acknowledged and does not make the error sink throw, and no handler takes up a message so old that
its age overflows. -/
def WithinChecks (s : Core w) (step : Step w) : Prop :=
  match step.2 with
  | .dispatch message channel => s.alive = true →
      (message.mAction = .ack → IsUnauthentic p s message ∨ IsStale step.1 message →
        s.mRepo[(message.mDialogId, message.mSequentialNumber)]? = none) ∧
      (message.mAction ≠ .ack → IsUnauthentic p s message ∨ IsStale step.1 message →
        Acknowledges step.1 s message channel ∧ ¬ SinkThrows p s message) ∧
      (message.mAction ≠ .ack → AgeOverflows step.1 message →
        ¬ (Delivered p step.1 s message channel ∧ TakesHold p step.1 s message channel))
  | _ => True

variable {p} {env : Env w} {message : DialogMessage w}

/-- The age test misses the stale messages whose age overflows, and no others. -/
theorem isStale_and_not_isExpired_iff (p : Platform w) :
    IsStale env message ∧ ¬ isExpired env message ↔ AgeOverflows env message := by
  have width := p.width
  obtain ⟨n, rfl⟩ : ∃ n, w = n + 1 := ⟨w - 1, by omega⟩
  have wide : (2 : Int) ^ 31 ≤ 2 ^ n := pow_le_pow_right₀ (by norm_num) (by omega)
  have half : (2 : Int) ^ (n + 1) = 2 * 2 ^ n := pow_succ' 2 n
  have now := BitVec.two_mul_toInt_lt (x := env.getTimestamp)
  have made := BitVec.le_toInt message.mTimestamp
  simp only [IsStale, isExpired, AgeOverflows, age, maxTimestampDiff, BitVec.toInt_sub,
    Nat.add_sub_cancel, gt_iff_lt, not_lt] at *
  generalize env.getTimestamp.toInt = now' at *
  generalize message.mTimestamp.toInt = made' at *
  constructor
  · rintro ⟨stale, recent⟩
    by_contra fits
    have exact' : (now' - made').bmod (2 ^ (n + 1)) = now' - made' :=
      Int.bmod_eq_of_le_mul_two (by push_cast; omega) (by push_cast; omega)
    omega
  · intro overflows
    have wraps : (now' - made').bmod (2 ^ (n + 1)) = now' - made' - 2 ^ (n + 1) := by
      have shifted := Int.sub_bmod_right (now' - made') (2 ^ (n + 1))
      rw [Int.bmod_eq_of_le_mul_two (by push_cast; omega) (by push_cast; omega)] at shifted
      rw [← shifted]
      push_cast
      rfl
    omega

/-- An ACK changes nothing exactly if nothing waits for it. -/
theorem exec_ack_unaffected_iff {channel : Str} (action : message.mAction = .ack) {s : Core w}
    (alive : s.alive = true) :
    Unaffected s (exec p env (.dispatch message channel) s) ↔
      s.mRepo[(message.mDialogId, message.mSequentialNumber)]? = none := by
  rcases exec_ack_cases p env channel action alive with
    ⟨idle, same⟩ | ⟨⟨delivery, waiting⟩, ended⟩
  · rw [same]
    exact iff_of_true (.refl s) idle
  · refine iff_of_false (fun unaffected => ?_) (by simp [waiting])
    rcases ended with erased | dead
    · have gone := congrArg (·[(message.mDialogId, message.mSequentialNumber)]?)
        (erased.symm.trans unaffected.pending)
      simp only [getElem?_erase, if_true, waiting] at gone
      cases gone
    · have running := unaffected.alive
      rw [dead, alive] at running
      cases running

/-- When a step discards an unauthenticated or stale message. -/
theorem discardsUnauthentic_iff (s : Core w) (step : Step w) :
    DiscardsUnauthentic p s step ↔ WithinChecks p s step := by
  obtain ⟨env, input⟩ := step
  cases input with
  | dispatch message channel =>
    simp only [DiscardsUnauthentic, WithinChecks, next]
    cases alive : s.alive with
    | false =>
      rw [exec_of_dead p env (by simp [alive])]
      exact iff_of_true (fun _ => .refl s) fun running => absurd running (by simp)
    | true =>
      rw [imp_iff_right (rfl : true = true)]
      by_cases ack : message.mAction = .ack
      · rw [exec_ack_unaffected_iff ack alive]
        simp [ack]
      rw [exec_other_unaffected_iff ack alive, ← isStale_and_not_isExpired_iff p]
      constructor
      · refine fun discards => ⟨fun action => absurd action ack, fun _ bad => ?_, fun _ old => ?_⟩
        · exact ⟨(discards bad).acknowledges, (discards bad).kept⟩
        · exact (discards (.inr old.1)).ignored
      · rintro ⟨-, checked, within⟩ bad
        refine ⟨(checked ack bad).1, (checked ack bad).2, ?_⟩
        rintro ⟨delivered, takes⟩
        refine within ack ⟨?_, delivered.recent⟩ ⟨delivered, takes⟩
        exact bad.resolve_left (not_not.mpr delivered.signatureOk)
  | _ => exact Iff.rfl

/-- At every step of every run, an unauthenticated or stale message is discarded exactly under these
conditions. -/
theorem unauthentic_discarded_iff (p : Platform w) (steps : List (Step w)) :
    Run.Along (next p) (fun s step => DiscardsUnauthentic p s step ↔ WithinChecks p s step)
      Core.initial steps :=
  Run.along_of_forall discardsUnauthentic_iff Core.initial steps

end

/-- The request for a dialog is pending, and an ACK comes that the peer has not signed. -/
theorem forged_ack_not_discarded :
    ¬ DiscardsUnauthentic Sample.platform
      (Sample.run (Sample.connect ++ [(Sample.env, .createDialog Sample.peer)]))
      (Sample.env, .dispatch ((Sample.incoming .ack 6 []).setSignature (str "forged"))
        Sample.channel) := by
  intro discards
  have unaffected := discards (.inl (by unfold IsUnauthentic; decide +kernel))
  have pending := congrArg (·[(str "dialog", (6 : BitVec 64))]?.isSome) unaffected.pending
  revert pending
  decide +kernel

end SecureDialogues
