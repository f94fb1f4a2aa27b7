import SecureDialogues.Stepwise.OwnTexts

/-!
# Texts that wait for delivery

A text of the user is shown as waiting until the callback of its pending delivery runs. It is put
into the message container before the despatcher decides whether the delivery becomes pending.
-/

namespace SecureDialogues

open Text Effect

/-- The text was sent by the user and waits for its delivery. -/
def UserMessage.IsWaiting (message : UserMessage) : Prop :=
  message.mType = .outgoing ∧ message.mStatus = .waitDelivery

section

variable {w : Nat}

/-- The message with this number is a text of the dialog that waits for delivery. -/
def MessageContainer.Waits (container : MessageContainer) (dialogId : Str) (number : Nat) : Prop :=
  ∃ message, container.Shows dialogId number message ∧ message.IsWaiting

/-- A pending delivery has the callback of this message. -/
def Core.Watches (s : Core w) (dialogId : Str) (number : Nat) : Prop :=
  ∃ k, s.Pends k dialogId number

/-- No text waits unwatched. -/
def Core.TextsWatched (s : Core w) : Prop :=
  ∀ dialogId number, s.mMessageContainer.Waits dialogId number → s.Watches dialogId number

/-- The callbacks are of messages that the container has given a number. -/
def Core.CallbacksNumbered (s : Core w) : Prop :=
  ∀ dialogId number, s.Watches dialogId number → number < s.mMessageContainer.mNext

/-! ## Steps without a new text -/

section Keeps

variable {s s' : Core w}

theorem KeepsTexts.waits_iff (keeps : KeepsTexts s s') (dialogId : Str) (number : Nat) :
    s'.mMessageContainer.Waits dialogId number ↔ s.mMessageContainer.Waits dialogId number := by
  apply exists_congr
  intro message
  constructor
  · rintro ⟨shows, waiting⟩
    exact ⟨(keeps.shows _ _ _ waiting.1).mp shows, waiting⟩
  · rintro ⟨shows, waiting⟩
    exact ⟨(keeps.shows _ _ _ waiting.1).mpr shows, waiting⟩

theorem KeepsTexts.watches_iff (keeps : KeepsTexts s s') (dialogId : Str) (number : Nat) :
    s'.Watches dialogId number ↔ s.Watches dialogId number :=
  exists_congr fun k => keeps.pends k dialogId number

theorem KeepsTexts.textsWatched_iff (keeps : KeepsTexts s s') :
    s'.TextsWatched ↔ s.TextsWatched := by
  apply forall₂_congr
  intro dialogId number
  rw [keeps.waits_iff, keeps.watches_iff]

theorem KeepsTexts.callbacksNumbered (keeps : KeepsTexts s s')
    (numbered : s.CallbacksNumbered) : s'.CallbacksNumbered := by
  intro dialogId number watches
  rw [keeps.watches_iff] at watches
  exact (numbered dialogId number watches).trans_le keeps.numbers

end Keeps

/-- The restarted program shows no texts. -/
theorem textsWatched_restart (s : Core w) : s.restart.TextsWatched := by
  rintro dialogId number ⟨message, member, -⟩
  cases member

theorem callbacksNumbered_restart (s : Core w) : s.restart.CallbacksNumbered := by
  rintro dialogId number ⟨k, stored, found, -⟩
  simp [Core.restart] at found

section Settle

variable {s : Core w} {k : NumberedKey w} {dialogId : Str} {number : Nat}
  {status : UserMessage.Status}

/-- A text whose callback has run does not wait, and the other callbacks stay. -/
theorem textsWatched_settleText (pends : s.Pends k dialogId number)
    (done : status ≠ .waitDelivery) (watched : s.TextsWatched) :
    (s.settleText k dialogId number status).TextsWatched := by
  rintro other last ⟨message, shows, waiting⟩
  obtain ⟨before, stood, rfl⟩ := (MessageContainer.shows_updateMessage _ _ _ _ _ _ _).mp shows
  by_cases same : other = dialogId ∧ last = number
  · rw [if_pos same] at waiting
    exact absurd waiting.2 done
  · rw [if_neg same] at waiting
    obtain ⟨key, pending⟩ := watched other last ⟨before, stood, waiting⟩
    refine ⟨key, (pends_settleText _ _ _ _ _ _ _ _).mpr ⟨pending, ?_⟩⟩
    rintro rfl
    obtain ⟨stored, found, text⟩ := pends
    obtain ⟨entry, lookup, handler⟩ := pending
    obtain rfl := Option.some.inj (found.symm.trans lookup)
    obtain ⟨rfl, rfl⟩ := DeliveryHandler.messageNotDeliveried.inj (handler.symm.trans text)
    exact same ⟨rfl, rfl⟩

theorem callbacksNumbered_settleText (numbered : s.CallbacksNumbered) :
    (s.settleText k dialogId number status).CallbacksNumbered := by
  rintro other last ⟨key, pending⟩
  obtain ⟨before, -⟩ := (pends_settleText _ _ _ _ _ _ _ _).mp pending
  rw [Core.settleText, MessageContainer.mNext_updateMessage]
  exact numbered other last ⟨key, before⟩

theorem Settles.ne_waitDelivery {input : Input w} (cause : Settles input k status) :
    status ≠ .waitDelivery := by
  cases cause <;> simp

end Settle

variable {p : Platform w} {env : Env w}

/-! ## A new text -/

section Shown

variable {s s' : Core w} {text content : Str} {dialog : Dialog w} {contact : Contact}

theorem TextShown.waits_iff (shown : TextShown env s s' text dialog contact content)
    (dialogId : Str) (number : Nat) :
    s'.mMessageContainer.Waits dialogId number ↔ s.mMessageContainer.Waits dialogId number ∨
      dialogId = s.mMessageContainer.mActiveDialog ∧ number = s.mMessageContainer.mNext := by
  unfold MessageContainer.Waits
  rw [shown.container, MessageContainer.addText]
  constructor
  · rintro ⟨message, shows, waiting⟩
    rcases (MessageContainer.shows_addMessage _ _ _ _ _ _).mp shows with old | ⟨rfl, rfl, -⟩
    · exact .inl ⟨message, old, waiting⟩
    · exact .inr ⟨rfl, rfl⟩
  · rintro (⟨message, old, waiting⟩ | ⟨rfl, rfl⟩)
    · exact ⟨message, (MessageContainer.shows_addMessage _ _ _ _ _ _).mpr (.inl old), waiting⟩
    · refine ⟨_, (MessageContainer.shows_addMessage _ _ _ _ _ _).mpr (.inr ⟨rfl, rfl, rfl⟩), ?_⟩
      exact ⟨rfl, rfl⟩

/-- The callback of the new text has a number that no other callback has. -/
theorem TextShown.textsWatched_iff (shown : TextShown env s s' text dialog contact content)
    (watched : s.TextsWatched) (numbered : s.CallbacksNumbered) :
    s'.TextsWatched ↔ TextPends env s dialog contact text content := by
  constructor
  · intro watched'
    obtain ⟨k, pending⟩ := watched' s.mMessageContainer.mActiveDialog s.mMessageContainer.mNext
      ((shown.waits_iff _ _).mpr (.inr ⟨rfl, rfl⟩))
    rcases (shown.pends_iff _ _ _).mp pending with old | ⟨pends, -⟩
    · exact absurd (numbered _ _ ⟨k, old⟩) (Nat.lt_irrefl _)
    · exact pends
  · intro pends dialogId number waits
    rcases (shown.waits_iff _ _).mp waits with old | ⟨rfl, rfl⟩
    · obtain ⟨k, pending⟩ := watched dialogId number old
      exact ⟨k, (shown.pends_iff _ _ _).mpr (.inl pending)⟩
    · exact ⟨_, (shown.pends_iff _ _ _).mpr (.inr ⟨pends, rfl, rfl, rfl⟩)⟩

theorem TextShown.callbacksNumbered (shown : TextShown env s s' text dialog contact content)
    (numbered : s.CallbacksNumbered) : s'.CallbacksNumbered := by
  rintro dialogId number ⟨k, pending⟩
  have next : s'.mMessageContainer.mNext = s.mMessageContainer.mNext + 1 := by
    rw [shown.container]
    rfl
  rw [next]
  rcases (shown.pends_iff _ _ _).mp pending with old | ⟨-, -, -, rfl⟩
  · exact Nat.lt_succ_of_lt (numbered dialogId number ⟨k, old⟩)
  · exact Nat.lt_succ_self _

end Shown

/-! ## Runs -/

variable (p) in
/-- If the step shows a text of the user, the channel of the contact is connected, the message is
signed, and no delivery is pending under its key. -/
def TextIsWatched (s : Core w) (step : Step w) : Prop :=
  s.alive = true → match step.2 with
    | .sendMessage text => ∀ dialog contact content,
      ShowsText p (textStart p s) text dialog contact content →
        TextPends step.1 (textStart p s) dialog contact text content
    | _ => True

theorem textIsWatched_of_nothing {s : Core w} {step : Step w}
    (nothing : ¬ ShowsSomeText p s step) : TextIsWatched p s step := by
  obtain ⟨env, input⟩ := step
  intro alive
  cases input with
  | sendMessage text =>
    intro dialog contact content shows
    exact absurd ⟨alive, text, rfl, dialog, contact, content, shows⟩ nothing
  | _ => trivial

theorem callbacksNumbered_next (s : Core w) (step : Step w) (numbered : s.CallbacksNumbered) :
    (next p s step).CallbacksNumbered := by
  cases textStep_next (p := p) s step with
  | keeps keeps nothing => exact keeps.callbacksNumbered numbered
  | restart cause fresh =>
    rw [fresh]
    exact callbacksNumbered_restart s
  | settle cause pends keeps =>
    exact keeps.callbacksNumbered (callbacksNumbered_settleText numbered)
  | newText alive cause shows shown keeps log =>
    apply keeps.callbacksNumbered
    apply shown.callbacksNumbered
    exact (keepsTexts_textStart p s).callbacksNumbered numbered

/-- When a step keeps the texts watched. -/
theorem textsWatched_next_iff (s : Core w) (step : Step w) (numbered : s.CallbacksNumbered)
    (watched : s.TextsWatched) : (next p s step).TextsWatched ↔ TextIsWatched p s step := by
  have quiet : (∀ text, step.2 ≠ .sendMessage text) → TextIsWatched p s step := by
    intro noText
    apply textIsWatched_of_nothing
    rintro ⟨-, text, sends, -⟩
    exact noText text sends
  cases textStep_next (p := p) s step with
  | keeps keeps nothing =>
    exact iff_of_true (keeps.textsWatched_iff.mpr watched) (textIsWatched_of_nothing nothing)
  | restart cause fresh =>
    rw [fresh]
    exact iff_of_true (textsWatched_restart s) (quiet (by simp [cause]))
  | settle cause pends keeps =>
    refine iff_of_true ?_ (quiet ?_)
    · rw [keeps.textsWatched_iff]
      exact textsWatched_settleText pends cause.ne_waitDelivery watched
    · intro text sends
      rw [sends] at cause
      cases cause
  | @newText text dialog contact content s₁ _ alive cause shows shown keeps log =>
    have start := keepsTexts_textStart p s
    rw [keeps.textsWatched_iff, shown.textsWatched_iff (start.textsWatched_iff.mpr watched)
      (start.callbacksNumbered numbered), TextIsWatched, imp_iff_right alive, cause]
    constructor
    · intro pends other contact' content' shows'
      obtain rfl := Option.some.inj (shows.stored.symm.trans shows'.stored)
      obtain rfl := Option.some.inj (shows.known.symm.trans shows'.known)
      obtain rfl := Except.ok.inj (shows.encrypted.symm.trans shows'.encrypted)
      exact pends
    · intro pends
      exact pends dialog contact content shows

variable (p) in
/-- In every run of a program, no text ever waits unwatched exactly if every text that the user
sends becomes pending when it is shown. -/
theorem texts_watched_iff (steps : List (Step w)) :
    Run.Along (next p) (fun s step => (next p s step).TextsWatched) Core.initial steps ↔
      Run.Along (next p) (TextIsWatched p) Core.initial steps := by
  apply Run.along_iff_along (I := Core.CallbacksNumbered) (W := Core.TextsWatched)
  · exact callbacksNumbered_next
  · exact textsWatched_next_iff
  · rintro dialogId number ⟨k, stored, found, -⟩
    simp [Core.initial] at found
  · rintro dialogId number ⟨message, member, -⟩
    cases member

end

/-- The channel of the peer is removed, and then the user sends a text. -/
def Sample.withoutChannel : List (Step 64) :=
  established ++ [(env, .setActiveDialog (str "dialog")), (env, .removeChannel channel),
    (env, .sendMessage (str "hello"))]

/-- The text that is sent without a channel waits for ever. -/
theorem text_waits_unwatched : ¬ (Sample.run Sample.withoutChannel).TextsWatched := by
  intro watched
  have waits : (Sample.run Sample.withoutChannel).mMessageContainer.Waits (str "dialog") 0 := by
    refine ⟨MessageContainer.textMessage (str "hello") false, ?_, rfl, rfl⟩
    decide +kernel
  obtain ⟨k, stored, found, -⟩ := watched _ _ waits
  have idle : (Sample.run Sample.withoutChannel).mRepo = ∅ := by
    decide +kernel
  rw [idle] at found
  simp at found

end SecureDialogues
