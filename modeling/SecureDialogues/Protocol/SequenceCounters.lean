import SecureDialogues.Protocol.OutgoingNumbers

/-!
# The room of a sequence counter

`init_sequental` draws the start of a counter from `unsigned int`, and the counter is an `unsigned
long` (`dialog.cpp:18-24, 72-74`). In the Windows build (`docker/windows.docker`) both have 32 bits,
so there may be no number left above the start.
-/

namespace SecureDialogues

open Text Effect

/-- The targets for which the program is built. -/
inductive Build where
  | linux
  | windows
  deriving DecidableEq, Repr

/-- The bits of an `unsigned long`. -/
def Build.width : Build → Nat
  | .linux => 64
  | .windows => 32

theorem Build.le_width (build : Build) : 32 ≤ build.width := by
  cases build <;> decide

namespace Dialog

variable {w : Nat}

/-- The results of so many calls of `makeNextSequental`. -/
def nextSequentals (dialog : Dialog w) : Nat → List (BitVec w)
  | 0 => []
  | k + 1 => dialog.makeNextSequental.mThisSequental :: dialog.makeNextSequental.nextSequentals k

/-- The next `k` numbers of the dialog increase and are not zero. A peer that has accepted the first
accepts the others, and a message with any of them is acknowledged over a connected channel. -/
structure CountsUp (dialog : Dialog w) (k : Nat) : Prop where
  increasing : (dialog.nextSequentals k).Pairwise (· < ·)
  nonzero : ∀ number ∈ dialog.nextSequentals k, number ≠ 0
  accepted : ∀ first rest, dialog.nextSequentals k = first :: rest → ∀ peer next : Dialog w,
    peer.isSequentalOk first = some next → accepts next rest = true
  acknowledged : ∀ number ∈ dialog.nextSequentals k,
    ∀ (env : Env w) (message : DialogMessage w) (channel : Str) (s : Core w),
      message.mSequentialNumber = number → message.mAction ≠ .abort → channel ∈ s.mChannels →
        sendAck env message channel s =
          sendAndForget env (makeAck env.getTimestamp message) channel s

/-! ## The numbers of a counter -/

variable (dialog : Dialog w)

theorem toNat_makeNextSequental :
    dialog.makeNextSequental.mThisSequental.toNat =
      (dialog.mThisSequental.toNat + 1) % 2 ^ w := by
  rw [makeNextSequental_mThisSequental, BitVec.toNat_add, show (1 : BitVec w) = 1#w from rfl,
    BitVec.toNat_ofNat, Nat.add_mod_mod]

/-- With room for `k` numbers, the next `k` are above the counter, one above the other. -/
theorem nextSequentals_increase {k : Nat} (room : dialog.mThisSequental.toNat + k < 2 ^ w) :
    (∀ number ∈ dialog.nextSequentals k, dialog.mThisSequental < number) ∧
      (dialog.nextSequentals k).Pairwise (· < ·) := by
  induction k generalizing dialog with
  | zero => exact ⟨by simp [nextSequentals], .nil⟩
  | succ k ih =>
    have next := dialog.toNat_makeNextSequental
    rw [Nat.mod_eq_of_lt (by omega)] at next
    have above : dialog.mThisSequental < dialog.makeNextSequental.mThisSequental := by
      rw [BitVec.lt_def, next]
      omega
    obtain ⟨later, increasing⟩ := ih dialog.makeNextSequental (by omega)
    refine ⟨?_, List.pairwise_cons.mpr ⟨later, increasing⟩⟩
    intro number member
    rcases List.mem_cons.mp member with rfl | member
    · exact above
    · exact BitVec.lt_trans above (later number member)

/-- Without it, the counter wraps around. -/
theorem zero_mem_nextSequentals {k : Nat} (full : 2 ^ w ≤ dialog.mThisSequental.toNat + k) :
    0 ∈ dialog.nextSequentals k := by
  have small := dialog.mThisSequental.isLt
  induction k generalizing dialog with
  | zero => omega
  | succ k ih =>
    have next := dialog.toNat_makeNextSequental
    by_cases last : dialog.mThisSequental.toNat + 1 = 2 ^ w
    · rw [last, Nat.mod_self] at next
      rw [nextSequentals, BitVec.eq_of_toNat_eq (y := 0) next]
      exact List.mem_cons_self
    · rw [Nat.mod_eq_of_lt (by omega)] at next
      refine List.mem_cons_of_mem _ (ih dialog.makeNextSequental ?_ ?_)
      · omega
      · omega

/-- A message with a number is acknowledged over a connected channel, unless it is an ABORT. -/
theorem sendAck_of_ne_zero (env : Env w) {message : DialogMessage w} {channel : Str} {s : Core w}
    (number : message.mSequentialNumber ≠ 0) (action : message.mAction ≠ .abort)
    (connected : channel ∈ s.mChannels) :
    sendAck env message channel s =
      sendAndForget env (makeAck env.getTimestamp message) channel s := by
  have positive : 0 < message.mSequentialNumber := by
    rw [BitVec.lt_def]
    exact Nat.pos_of_ne_zero fun zero => number (BitVec.eq_of_toNat_eq zero)
  have due : message.mAction ≠ .abort ∧ 0 < message.mSequentialNumber ∧ channel ∈ s.mChannels :=
    ⟨action, positive, connected⟩
  rw [sendAck, Eff.reads_bind, if_pos due]

theorem countsUp_iff (k : Nat) :
    dialog.CountsUp k ↔ dialog.mThisSequental.toNat + k < 2 ^ w := by
  constructor
  · intro counts
    by_contra full
    exact counts.nonzero 0 (dialog.zero_mem_nextSequentals (Nat.not_lt.mp full)) rfl
  · intro room
    obtain ⟨above, increasing⟩ := dialog.nextSequentals_increase room
    have nonzero : ∀ number ∈ dialog.nextSequentals k, number ≠ 0 := by
      intro number member zero
      have positive := above number member
      rw [zero, BitVec.lt_def] at positive
      exact Nat.not_lt_zero _ positive
    refine ⟨increasing, nonzero, ?_, ?_⟩
    · intro first rest numbers peer next accepted
      obtain ⟨-, rfl⟩ := isSequentalOk_eq_some.mp accepted
      rw [numbers, List.pairwise_cons] at increasing
      apply accepts_of_increasing increasing.2
      intro number second
      exact increasing.1 number (List.mem_of_mem_head? second)
    · rintro number member env message channel s rfl action connected
      exact sendAck_of_ne_zero env (nonzero _ member) action connected

/-- The counter of a new dialog starts with a number of 32 bits. -/
theorem ofPeer_countsUp_iff (wide : 32 ≤ w) (init : BitVec 32) (contactId dialogId : Str)
    (sequental : BitVec w) (status : Status) (k : Nat) :
    (ofPeer init contactId dialogId sequental status).CountsUp k ↔ init.toNat + k < 2 ^ w := by
  have start : (init.setWidth w).toNat = init.toNat := BitVec.toNat_setWidth_of_le wide
  rw [countsUp_iff, ofPeer, start]

end Dialog

/-- With 64 bits there is room above every start. -/
theorem linux_countsUp (init : BitVec 32) (contactId dialogId : Str)
    (sequental : BitVec Build.linux.width) (status : Status) {k : Nat} (few : k < 2 ^ 31) :
    (Dialog.ofPeer init contactId dialogId sequental status).CountsUp k := by
  have start := init.isLt
  rw [Dialog.ofPeer_countsUp_iff Build.linux.le_width, Build.width]
  omega

/-- In each build the numbers of a dialog count up exactly as far as the start of its counter leaves
room in an `unsigned long`. -/
theorem dialog_countsUp_iff (build : Build) (init : BitVec 32) (contactId dialogId : Str)
    (sequental : BitVec build.width) (status : Status) (k : Nat) :
    (Dialog.ofPeer init contactId dialogId sequental status).CountsUp k ↔
      init.toNat + k < 2 ^ build.width :=
  Dialog.ofPeer_countsUp_iff build.le_width init contactId dialogId sequental status k

/-- In the Windows build the largest start is followed by zero. -/
theorem windows_not_countsUp :
    ¬ (Dialog.ofContact (w := Build.windows.width) (BitVec.allOnes 32) (str "MQ==")
      (str "peer")).CountsUp 1 := by
  intro counts
  exact counts.nonzero 0 List.mem_cons_self rfl

end SecureDialogues
