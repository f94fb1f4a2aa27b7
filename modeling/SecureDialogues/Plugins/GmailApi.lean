import SecureDialogues.Lib.Run
import SecureDialogues.Lib.Text

/-!
# Polling a Gmail mailbox

`GmailApi` (`plugins/gmail-plugin/gmail-communication/gmailapi.cpp`) reads the listing of the
mailbox page by page, the newest message first, until it meets the message it has read last. A page
without messages has no field `messages`.
-/

namespace SecureDialogues.GmailApi

open Text

/-! ## One poll -/

/-- The requests: for a page of the listing, and for a message. -/
inductive Request where
  | list (page : Nat)
  | getMail (id : Str)
  deriving DecidableEq, Repr

/-- The outside world of a poll: the sizes of the pages before the last one, the requests that are
answered, and what `getMail` makes of a message. -/
structure Poll where
  sizes : List Nat
  answers : Request → Bool
  mail : Str → Str × Str

/-- What a poll fails with: the exception of a request, or `at` for a missing field. -/
inductive PollError where
  | requestFailed
  | outOfRange
  deriving DecidableEq, Repr

/-- The listing in pages. -/
def pagesOf : List Nat → List Str → List (List Str)
  | [], listing => [listing]
  | size :: sizes, listing => listing.take size :: pagesOf sizes (listing.drop size)

/-- `INIT_LOAD_MESSAGES` (`gmailapi.h:34`). -/
def initLoadMessages : Nat := 20

section

variable (poll : Poll) (mLastMessage : Str)

def Poll.request (request : Request) : Except PollError Unit :=
  if poll.answers request then .ok () else .error .requestFailed

/-- The loop over the messages of a page (`gmailapi.cpp:155-163`), with the value of `breaked`. -/
def loadPage : List Str → List (Str × Str) → Except PollError (List (Str × Str) × Bool)
  | [], loadedMessages => pure (loadedMessages, false)
  | id :: ids, loadedMessages =>
    if id ≠ mLastMessage then do
      poll.request (.getMail id)
      loadPage ids (poll.mail id :: loadedMessages)
    else pure (loadedMessages, true)

/-- `GmailApi::loadMessages` (`gmailapi.cpp:120-172`), from a page on. Only the last page has no
field `nextPageToken`. -/
def loadMessages : Nat → List (List Str) → List (Str × Str) →
    Except PollError (Str × List (Str × Str))
  | _, [], _ => throw .outOfRange
  | page, messages :: pages, loadedMessages => do
    poll.request (.list page)
    if messages = [] then pure ([], loadedMessages)
    else do
      let size :=
        if mLastMessage = [] then min initLoadMessages messages.length else messages.length
      let (loadedMessages, breaked) ← loadPage poll mLastMessage (messages.take size) loadedMessages
      let first := messages.headD []
      if breaked = false ∧ mLastMessage ≠ [] then do
        let (_, loadedMessages) ← loadMessages (page + 1) pages loadedMessages
        pure (first, loadedMessages)
      else pure (first, loadedMessages)

end

/-! ## The mailbox -/

/-- The mailbox with the memory of the reader. -/
structure State where
  /-- All messages that have arrived. -/
  arrived : List Str
  /-- The listed messages that came after the last poll that saw a message, the newest first. -/
  fresh : List Str
  /-- The other listed messages. -/
  older : List Str
  mLastMessage : Str
  deriving DecidableEq, Repr

def State.initial : State := ⟨[], [], [], []⟩

def State.listing (s : State) : List Str := s.fresh ++ s.older

def State.pages (s : State) (poll : Poll) : List (List Str) := pagesOf poll.sizes s.listing

/-- A new message arrives, a message is no longer listed, or the mailbox is polled. -/
inductive Move where
  | arrive (id : Str)
  | lose (id : Str)
  | poll (poll : Poll)

/-- `GmailApi::getMessages` up to the assignment of `mLastMessage` (`gmailapi.cpp:174-178`). -/
def getMessages (s : State) (poll : Poll) : Except PollError (Str × List (Str × Str)) :=
  loadMessages poll s.mLastMessage 0 (s.pages poll) []

/-- A step of the mailbox or its reader. Every message has an identifier of its own. -/
def next (s : State) : Move → State
  | .arrive id =>
    if id = [] ∨ id ∈ s.arrived then s
    else { s with arrived := id :: s.arrived, fresh := id :: s.fresh }
  | .lose id => { s with fresh := s.fresh.filter (· ≠ id), older := s.older.filter (· ≠ id) }
  | .poll poll =>
    match getMessages s poll with
    | .ok (last, _) =>
      if last ≠ [] then { s with fresh := [], older := s.listing, mLastMessage := last } else s
    | .error _ => s

/-- A poll after one that saw a message returns what came since, the oldest first, unless a request
fails; then the reader remembers what it did before. -/
def ReadsFresh (s : State) : Move → Prop
  | .poll poll => s.mLastMessage ≠ [] →
    match getMessages s poll with
    | .ok (_, messages) => messages = (s.fresh.map poll.mail).reverse
    | .error e => e = .requestFailed ∧ (next s (.poll poll)).mLastMessage = s.mLastMessage
  | _ => True

/-! ## What is read -/

/-- The messages on the pages before the first page without messages. -/
def reachable (pages : List (List Str)) : List Str := (pages.takeWhile (· ≠ [])).flatten

/-- The requests that a poll makes, from a page on, if all of them are answered. -/
def requests (mLastMessage : Str) : Nat → List (List Str) → List Request
  | _, [] => []
  | page, messages :: pages =>
    .list page :: (messages.takeWhile (· ≠ mLastMessage)).map .getMail ++
      if messages = [] ∨ mLastMessage ∈ messages then [] else requests mLastMessage (page + 1) pages

/-- The remembered message is listed, before the first page without messages; or there is such a
page, and the messages before it are the new ones; or a request fails. -/
def MeetsLast (s : State) : Move → Prop
  | .poll poll => s.mLastMessage ≠ [] →
    s.mLastMessage ∈ reachable (s.pages poll) ∨
      [] ∈ s.pages poll ∧ reachable (s.pages poll) = s.fresh ∨
      ∃ request ∈ requests s.mLastMessage 0 (s.pages poll), poll.answers request = false
  | _ => True

section

variable {poll : Poll} {mLastMessage : Str}

theorem request_of_answers {request : Request} (answered : poll.answers request = true) :
    poll.request request = .ok () :=
  if_pos answered

theorem request_of_fails {request : Request} (failed : poll.answers request = false) :
    poll.request request = .error .requestFailed :=
  if_neg (by simp [failed])

theorem loadPage_of_answers {ids : List Str} (loadedMessages : List (Str × Str))
    (answered : ∀ id ∈ ids.takeWhile (· ≠ mLastMessage), poll.answers (.getMail id) = true) :
    loadPage poll mLastMessage ids loadedMessages =
      .ok (((ids.takeWhile (· ≠ mLastMessage)).map poll.mail).reverse ++ loadedMessages,
        decide (mLastMessage ∈ ids)) := by
  induction ids generalizing loadedMessages with
  | nil => rfl
  | cons id ids ih =>
    rw [loadPage]
    by_cases same : id = mLastMessage
    · simp [same]
      rfl
    · simp only [List.takeWhile_cons, same, ne_eq, not_false_eq_true, if_true, List.forall_mem_cons,
        decide_true] at answered
      rw [if_pos same, request_of_answers answered.1]
      show loadPage poll mLastMessage ids (poll.mail id :: loadedMessages) = _
      rw [ih _ (by simpa using answered.2)]
      simp [same, Ne.symm same]

theorem loadPage_of_fails {ids : List Str} (loadedMessages : List (Str × Str))
    (failed : ∃ id ∈ ids.takeWhile (· ≠ mLastMessage), poll.answers (.getMail id) = false) :
    loadPage poll mLastMessage ids loadedMessages = .error .requestFailed := by
  induction ids generalizing loadedMessages with
  | nil =>
    obtain ⟨id, member, -⟩ := failed
    cases member
  | cons id ids ih =>
    rw [loadPage]
    by_cases same : id = mLastMessage
    · simp [same] at failed
    rw [if_pos same]
    cases answered : poll.answers (.getMail id) with
    | false =>
      rw [request_of_fails answered]
      rfl
    | true =>
      rw [request_of_answers answered]
      apply ih
      simpa [same, answered] using failed

/-- The page of a listing that is asked for and has messages. -/
theorem loadMessages_cons (remembers : mLastMessage ≠ []) {page : Nat} {messages : List Str}
    (filled : messages ≠ []) (listed : poll.answers (.list page) = true)
    (pages : List (List Str)) (loadedMessages : List (Str × Str)) :
    loadMessages poll mLastMessage page (messages :: pages) loadedMessages =
      match loadPage poll mLastMessage messages loadedMessages with
      | .error e => .error e
      | .ok (loadedMessages, true) => .ok (messages.headD [], loadedMessages)
      | .ok (loadedMessages, false) =>
        match loadMessages poll mLastMessage (page + 1) pages loadedMessages with
        | .error e => .error e
        | .ok (_, loadedMessages) => .ok (messages.headD [], loadedMessages) := by
  rw [loadMessages, request_of_answers listed, if_neg filled, if_neg remembers]
  dsimp only
  rw [List.take_length]
  show (loadPage poll mLastMessage messages loadedMessages >>= _) = _
  rcases loadPage poll mLastMessage messages loadedMessages with e | ⟨loaded, _ | _⟩
  · rfl
  · show (if _ then _ else _) = _
    rw [if_pos ⟨rfl, remembers⟩]
    dsimp only
    rcases loadMessages poll mLastMessage (page + 1) pages loaded with e | ⟨first, loaded'⟩ <;> rfl
  · rfl

theorem requests_cons {page : Nat} {messages : List Str} (filled : messages ≠ [])
    (pages : List (List Str)) : requests mLastMessage page (messages :: pages) =
      .list page :: ((messages.takeWhile (· ≠ mLastMessage)).map .getMail ++
        if mLastMessage ∈ messages then [] else requests mLastMessage (page + 1) pages) := by
  simp [requests, filled]

/-- A poll of which a request fails. -/
theorem loadMessages_of_fails (remembers : mLastMessage ≠ []) {page : Nat}
    {pages : List (List Str)} (loadedMessages : List (Str × Str))
    (failed : ∃ request ∈ requests mLastMessage page pages, poll.answers request = false) :
    loadMessages poll mLastMessage page pages loadedMessages = .error .requestFailed := by
  induction pages generalizing page loadedMessages with
  | nil =>
    obtain ⟨request, member, -⟩ := failed
    cases member
  | cons messages pages ih =>
    cases listed : poll.answers (.list page) with
    | false =>
      rw [loadMessages, request_of_fails listed]
      rfl
    | true =>
      obtain ⟨request, member, fails⟩ := failed
      by_cases filled : messages = []
      · simp only [requests, filled, List.takeWhile_nil, List.map_nil, List.singleton_append,
          true_or, if_true, List.mem_singleton] at member
        rw [member, listed] at fails
        cases fails
      rw [requests_cons filled, List.mem_cons, List.mem_append] at member
      rw [loadMessages_cons remembers filled listed]
      by_cases mails : ∃ id ∈ messages.takeWhile (· ≠ mLastMessage),
          poll.answers (.getMail id) = false
      · rw [loadPage_of_fails loadedMessages mails]
      have answered : ∀ id ∈ messages.takeWhile (· ≠ mLastMessage),
          poll.answers (.getMail id) = true := by
        simpa using mails
      rcases member with rfl | here | later
      · rw [listed] at fails
        cases fails
      · obtain ⟨id, read, rfl⟩ := List.mem_map.mp here
        exact absurd ⟨id, read, fails⟩ mails
      · by_cases met : mLastMessage ∈ messages
        · rw [if_pos met] at later
          cases later
        rw [if_neg met] at later
        rw [loadPage_of_answers loadedMessages answered, decide_eq_false met]
        dsimp only
        rw [ih _ ⟨request, later, fails⟩]

theorem reachable_cons {messages : List Str} (filled : messages ≠ []) (pages : List (List Str)) :
    reachable (messages :: pages) = messages ++ reachable pages := by
  simp [reachable, filled]

/-- What comes after the remembered message is not read. -/
theorem takeWhile_append_of_mem {first : List Str} (met : mLastMessage ∈ first) (rest : List Str) :
    (first ++ rest).takeWhile (· ≠ mLastMessage) = first.takeWhile (· ≠ mLastMessage) := by
  rw [List.takeWhile_append, if_neg]
  intro whole
  have all := List.takeWhile_eq_self_iff.mp ((List.takeWhile_prefix _).eq_of_length whole)
  simpa using all mLastMessage met

theorem passes_of_notMem {messages : List Str} (missed : mLastMessage ∉ messages) :
    ∀ id ∈ messages, decide (id ≠ mLastMessage) = true := by
  intro id member
  simpa using fun same : id = mLastMessage => missed (same ▸ member)

/-- A poll of which all requests are answered. -/
theorem loadMessages_of_answers (remembers : mLastMessage ≠ []) {page : Nat}
    {pages : List (List Str)} (loadedMessages : List (Str × Str))
    (answered : ∀ request ∈ requests mLastMessage page pages, poll.answers request = true) :
    loadMessages poll mLastMessage page pages loadedMessages =
      if mLastMessage ∉ reachable pages ∧ [] ∉ pages then .error .outOfRange
      else .ok ((pages.headD []).headD [],
        (((reachable pages).takeWhile (· ≠ mLastMessage)).map poll.mail).reverse ++
          loadedMessages) := by
  induction pages generalizing page loadedMessages with
  | nil => rfl
  | cons messages pages ih =>
    by_cases filled : messages = []
    · subst filled
      rw [loadMessages, request_of_answers (answered _ (by simp [requests]))]
      simp [reachable]
    rw [requests_cons filled, List.forall_mem_cons, List.forall_mem_append] at answered
    obtain ⟨listed, mails, rest⟩ := answered
    have read : ∀ id ∈ messages.takeWhile (· ≠ mLastMessage),
        poll.answers (.getMail id) = true := by
      intro id member
      exact mails _ (List.mem_map_of_mem member)
    rw [loadMessages_cons remembers filled listed, loadPage_of_answers loadedMessages read,
      reachable_cons filled]
    by_cases met : mLastMessage ∈ messages
    · rw [decide_eq_true met, if_neg (by simp [met]), takeWhile_append_of_mem met]
      rfl
    · rw [if_neg met] at rest
      have passes := passes_of_notMem met
      have missed : mLastMessage ∉ messages ++ reachable pages ∧ [] ∉ messages :: pages ↔
          mLastMessage ∉ reachable pages ∧ [] ∉ pages := by
        simp [met, Ne.symm filled]
      rw [decide_eq_false met, List.takeWhile_eq_self_iff.mpr passes,
        List.takeWhile_append_of_pos passes]
      dsimp only
      rw [ih _ rest]
      by_cases ends : mLastMessage ∉ reachable pages ∧ [] ∉ pages
      · rw [if_pos ends, if_pos (missed.mpr ends)]
      · rw [if_neg ends, if_neg (missed.not.mpr ends)]
        simp

/-- What is remembered is the first message of the first page. -/
theorem loadMessages_first {page : Nat} {pages : List (List Str)}
    {loadedMessages messages : List (Str × Str)} {last : Str}
    (returned : loadMessages poll mLastMessage page pages loadedMessages = .ok (last, messages)) :
    last = (pages.headD []).headD [] := by
  cases pages with
  | nil => cases returned
  | cons ids pages =>
    rw [loadMessages] at returned
    cases listed : poll.answers (.list page) with
    | false =>
      rw [request_of_fails listed] at returned
      cases returned
    | true =>
      rw [request_of_answers listed] at returned
      by_cases filled : ids = []
      · rw [if_pos filled] at returned
        cases returned
        rw [filled]
        rfl
      rw [if_neg filled] at returned
      dsimp only at returned
      generalize ids.take _ = read at returned
      generalize loadPage poll mLastMessage read loadedMessages = outcome at returned
      rcases outcome with e | ⟨loaded, breaked⟩
      · cases returned
      change (if _ then _ else _) = _ at returned
      split at returned
      · generalize loadMessages poll mLastMessage (page + 1) pages _ = rest at returned
        rcases rest with e | ⟨first, loaded'⟩
        · cases returned
        · cases returned
          rfl
      · cases returned
        rfl

end

/-! ## Listings -/

theorem flatten_pagesOf (sizes : List Nat) (listing : List Str) :
    (pagesOf sizes listing).flatten = listing := by
  induction sizes generalizing listing with
  | nil => simp [pagesOf]
  | cons size sizes ih => simp [pagesOf, ih]

theorem reachable_prefix (pages : List (List Str)) : reachable pages <+: pages.flatten := by
  obtain ⟨rest, split⟩ := List.takeWhile_prefix (l := pages) fun messages => decide (messages ≠ [])
  refine ⟨rest.flatten, ?_⟩
  rw [reachable, ← List.flatten_append, split]

theorem headD_pagesOf_prefix (sizes : List Nat) (listing : List Str) :
    (pagesOf sizes listing).headD [] <+: listing := by
  cases sizes with
  | nil => exact List.prefix_rfl
  | cons size sizes => exact List.take_prefix size listing

/-! ## The invariant -/

/-- What is remembered was the newest message. -/
structure Invariant (s : State) : Prop where
  named : [] ∉ s.arrived
  listed : ∀ id ∈ s.listing, id ∈ s.arrived
  remembered : s.mLastMessage ≠ [] → s.mLastMessage ∈ s.arrived
  unread : s.mLastMessage ∉ s.fresh
  newest : s.mLastMessage ∈ s.older → s.older.head? = some s.mLastMessage

variable {s : State}

theorem Invariant.initial : Invariant State.initial := by
  constructor <;> simp [State.initial, State.listing]

/-- A poll that saw a message remembers the newest one. -/
theorem head?_listing_of_returned {poll : Poll} {last : Str} {messages : List (Str × Str)}
    (returned : getMessages s poll = .ok (last, messages)) (named : last ≠ []) :
    s.listing.head? = some last := by
  have head := loadMessages_first returned
  obtain ⟨rest, split⟩ := headD_pagesOf_prefix poll.sizes s.listing
  rw [State.pages] at head
  cases page : (pagesOf poll.sizes s.listing).headD [] with
  | nil =>
    rw [page] at head
    exact absurd head named
  | cons id ids =>
    rw [page] at head split
    rw [← split, head]
    rfl

section

variable (invariant : Invariant s)

include invariant

theorem Invariant.arrive (id : Str) : Invariant (next s (.arrive id)) := by
  unfold GmailApi.next
  dsimp only
  split
  · exact invariant
  rename_i new
  rw [not_or] at new
  refine ⟨?_, ?_, ?_, ?_, invariant.newest⟩
  · simpa [Ne.symm new.1] using invariant.named
  · intro other member
    rcases List.mem_cons.mp member with rfl | older
    · exact List.mem_cons_self
    · exact List.mem_cons_of_mem _ (invariant.listed other older)
  · intro remembers
    exact List.mem_cons_of_mem _ (invariant.remembered remembers)
  · rw [List.mem_cons, not_or]
    refine ⟨?_, invariant.unread⟩
    intro same
    have same : s.mLastMessage = id := same
    exact new.2 (same ▸ invariant.remembered (same ▸ new.1))

theorem Invariant.lose (id : Str) : Invariant (next s (.lose id)) := by
  refine ⟨invariant.named, ?_, invariant.remembered, ?_, ?_⟩
  · intro other member
    apply invariant.listed
    rw [State.listing, List.mem_append] at member ⊢
    exact member.imp List.mem_of_mem_filter List.mem_of_mem_filter
  · intro member
    exact invariant.unread (List.mem_of_mem_filter member)
  · intro member
    have first := invariant.newest (List.mem_of_mem_filter member)
    obtain ⟨rest, older⟩ := List.head?_eq_some_iff.mp first
    have kept : s.mLastMessage ≠ id := of_decide_eq_true (List.mem_filter.mp member).2
    show (s.older.filter (· ≠ id)).head? = some s.mLastMessage
    rw [older, List.filter_cons_of_pos (by simpa using kept)]
    rfl

theorem Invariant.next (move : Move) : Invariant (next s move) := by
  cases move with
  | arrive id => exact invariant.arrive id
  | lose id => exact invariant.lose id
  | poll poll =>
    unfold GmailApi.next
    dsimp only
    split
    swap
    · exact invariant
    rename_i last messages returned
    split
    swap
    · exact invariant
    rename_i named
    have first := head?_listing_of_returned returned named
    refine ⟨invariant.named, invariant.listed, ?_, List.not_mem_nil, fun _ => first⟩
    intro _
    exact invariant.listed last (List.mem_of_mem_head? first)

end

/-! ## Runs -/

section

variable {poll : Poll}

theorem reachable_prefix_listing : reachable (s.pages poll) <+: s.fresh ++ s.older := by
  have whole : (s.pages poll).flatten = s.fresh ++ s.older := flatten_pagesOf _ _
  exact whole ▸ reachable_prefix (s.pages poll)

/-- The messages before the remembered one are the new ones. -/
theorem takeWhile_reachable_of_met (invariant : Invariant s)
    (met : s.mLastMessage ∈ reachable (s.pages poll)) :
    (reachable (s.pages poll)).takeWhile (· ≠ s.mLastMessage) = s.fresh := by
  obtain ⟨rest, whole⟩ : reachable (s.pages poll) <+: s.fresh ++ s.older :=
    reachable_prefix_listing
  have older : s.mLastMessage ∈ s.older := by
    have listed : s.mLastMessage ∈ s.fresh ++ s.older := by
      rw [← whole]
      exact List.mem_append_left _ met
    exact (List.mem_append.mp listed).resolve_left invariant.unread
  obtain ⟨others, split⟩ := List.head?_eq_some_iff.mp (invariant.newest older)
  rw [← takeWhile_append_of_mem met rest, whole,
    List.takeWhile_append_of_pos (passes_of_notMem invariant.unread), split]
  simp

/-- As many messages as there are new ones are the new ones. -/
theorem reachable_eq_fresh (same : (reachable (s.pages poll)).length = s.fresh.length) :
    reachable (s.pages poll) = s.fresh :=
  (List.prefix_of_prefix_length_le reachable_prefix_listing (List.prefix_append s.fresh s.older)
    same.le).eq_of_length same

end

/-- A poll reads the new messages exactly if it meets the one it remembers. -/
theorem readsFresh_iff (invariant : Invariant s) (move : Move) :
    ReadsFresh s move ↔ MeetsLast s move := by
  cases move with
  | arrive id => exact Iff.rfl
  | lose id => exact Iff.rfl
  | poll poll =>
    unfold ReadsFresh MeetsLast
    apply imp_congr_right
    intro remembers
    by_cases failed : ∃ request ∈ requests s.mLastMessage 0 (s.pages poll),
        poll.answers request = false
    · have fails : getMessages s poll = .error .requestFailed :=
        loadMessages_of_fails remembers [] failed
      simp only [GmailApi.next, fails]
      simp [failed]
    have answered : ∀ request ∈ requests s.mLastMessage 0 (s.pages poll),
        poll.answers request = true := by
      simpa using failed
    have outcome : getMessages s poll = _ := loadMessages_of_answers remembers [] answered
    rw [outcome]
    by_cases met : s.mLastMessage ∈ reachable (s.pages poll)
    · rw [if_neg fun missing => missing.1 met, takeWhile_reachable_of_met invariant met]
      simp [met]
    by_cases blank : [] ∈ s.pages poll
    · rw [if_neg fun missing => missing.2 blank,
        List.takeWhile_eq_self_iff.mpr (passes_of_notMem met)]
      simp only [met, blank, failed, List.append_nil, List.reverse_inj, true_and, false_or,
        or_false]
      constructor
      · intro same
        exact reachable_eq_fresh (by simpa using congrArg List.length same)
      · intro same
        rw [same]
    · rw [if_pos ⟨met, blank⟩]
      simp only [met, blank, failed, reduceCtorEq, false_and, or_self]

end SecureDialogues.GmailApi
