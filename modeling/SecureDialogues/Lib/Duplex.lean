import SecureDialogues.Lib.Run

/-!
# Two parties joined by queues

Two parties send to each other over one queue in each direction. A queue loses nothing and keeps
the order; a schedule says which party receives next. What a party does with a message is its
reaction: a new state and the messages that it sends.
-/

namespace SecureDialogues

/-- The parties and what is on its way to them, oldest first. -/
structure Duplex (σ μ : Type) where
  left : σ
  right : σ
  toLeft : List μ
  toRight : List μ

namespace Duplex

/-- The party that receives next. -/
inductive Side where
  | left
  | right
  deriving DecidableEq, Repr

/-- The one at the other end. -/
def Side.other : Side → Side
  | left => right
  | right => left

@[simp] theorem Side.other_other (side : Side) : side.other.other = side := by
  cases side <;> rfl

variable {σ μ : Type} (reactLeft reactRight : σ → μ → σ × List μ)

/-- The oldest message on its way to the party is received, if there is one. -/
def deliver (net : Duplex σ μ) : Side → Duplex σ μ
  | .left =>
    match net.toLeft with
    | [] => net
    | message :: rest => {
        left := (reactLeft net.left message).1
        right := net.right
        toLeft := rest
        toRight := net.toRight ++ (reactLeft net.left message).2 }
  | .right =>
    match net.toRight with
    | [] => net
    | message :: rest => {
        left := net.left
        right := (reactRight net.right message).1
        toLeft := net.toLeft ++ (reactRight net.right message).2
        toRight := rest }

/-- Nothing is on its way. -/
def Quiet (net : Duplex σ μ) : Prop := net.toLeft = [] ∧ net.toRight = []

/-- `P` holds after every schedule of deliveries. -/
def Always (P : Duplex σ μ → Prop) (net : Duplex σ μ) : Prop :=
  ∀ schedule, P (Run.after (deliver reactLeft reactRight) net schedule)

variable {reactLeft reactRight} {P : Duplex σ μ → Prop} {left right : σ} {message : μ}
  {rest sent toLeft toRight : List μ}

theorem Always.now {net : Duplex σ μ} (always : Always reactLeft reactRight P net) : P net :=
  always []

theorem Always.step {net : Duplex σ μ} (always : Always reactLeft reactRight P net) (side : Side) :
    Always reactLeft reactRight P (deliver reactLeft reactRight net side) :=
  fun schedule => always (side :: schedule)

/-- The left party receives. -/
theorem Always.receiveLeft
    (always : Always reactLeft reactRight P ⟨left, right, message :: rest, toRight⟩)
    {left' : σ} (reaction : reactLeft left message = (left', sent)) :
    Always reactLeft reactRight P ⟨left', right, rest, toRight ++ sent⟩ := by
  have next := always.step .left
  simp only [deliver, reaction] at next
  exact next

/-- The right party receives. -/
theorem Always.receiveRight
    (always : Always reactLeft reactRight P ⟨left, right, toLeft, message :: rest⟩)
    {right' : σ} (reaction : reactRight right message = (right', sent)) :
    Always reactLeft reactRight P ⟨left, right', toLeft ++ sent, rest⟩ := by
  have next := always.step .right
  simp only [deliver, reaction] at next
  exact next

/-- The left party receives several messages to which it sends nothing. -/
theorem Always.silent {I : σ → Prop} {M : μ → Prop}
    (silent : ∀ s message, I s → M message → (reactLeft s message).2 = [] ∧
      I (reactLeft s message).1) {messages : List μ} (kind : ∀ message ∈ messages, M message)
    (always : Always reactLeft reactRight P ⟨left, right, messages ++ rest, toRight⟩)
    (inv : I left) :
    ∃ left', I left' ∧ Always reactLeft reactRight P ⟨left', right, rest, toRight⟩ := by
  induction messages generalizing left with
  | nil => exact ⟨left, inv, always⟩
  | cons message messages ih =>
    obtain ⟨nothing, inv'⟩ := silent left message inv (kind message (by simp))
    have reaction : reactLeft left message = ((reactLeft left message).1, []) :=
      Prod.ext rfl nothing
    have next := always.receiveLeft reaction
    rw [List.append_nil] at next
    exact ih (fun other member => kind other (by simp [member])) next inv'

end Duplex

end SecureDialogues
