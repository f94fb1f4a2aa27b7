import SecureDialogues.Utils.MessageMarshallerProps

/-!
# Which texts are accepted

`unmarshall` looks at the lines one after the other and does not ask at the end which of them it
has seen. A text that breaks off before the body delimiter gives a message, too, and the fields
whose lines are missing keep what `MessageFields` was created with.
-/

namespace SecureDialogues

open Text

section

variable {w : Nat}

/-! ## Complete texts -/

/-- The words of a text: the values of the header lines, the lines of the signature after its first
one, and the lines behind the first delimiter. -/
structure WireFields where
  action : Str
  number : Str
  dialogId : Str
  timestamp : Str
  sign : Str
  signRest : List Str
  body : List Str

namespace WireFields

variable (fields : WireFields)

/-- The first seven lines. -/
def headerLines : List Str :=
  [header,
    fieldVersion ++ colon :: DialogMessage.version,
    fieldAction ++ colon :: fields.action,
    fieldSequentalNumber ++ colon :: fields.number,
    fieldDialogId ++ colon :: fields.dialogId,
    fieldTimestamp ++ colon :: fields.timestamp,
    fieldSign ++ colon :: fields.sign]

/-- All lines. -/
def lines : List Str := fields.headerLines ++ (fields.signRest ++ bodyDelitimer :: fields.body)

/-- Every field of the message is read off these words. -/
structure Give (message : DialogMessage w) (address : Str) : Prop where
  action : convertAction fields.action = .ok message.mAction
  number : stoul w fields.number = .ok message.mSequentialNumber
  dialogId : fields.dialogId ≠ [] ∧ message.mDialogId = fields.dialogId
  timestamp : stol w fields.timestamp = .ok message.mTimestamp
  sign : fields.sign ≠ [] ∧ bodyDelitimer ∉ fields.signRest ∧
    message.mSign = fields.sign ++ fields.signRest.flatMap (newline :: ·)
  content : message.mContent = trimmed (unlines (fields.body.filter (· ≠ bodyDelitimer)))
  address : message.mAdress = address

end WireFields

/-- The text has all its lines, and the message is what they say. -/
def IsCompleteText (text address : Str) (message : DialogMessage w) : Prop :=
  ∃ fields : WireFields, getlines text = fields.lines ∧ fields.Give message address

/-- Only a complete text gives a message. -/
def AcceptsOnlyComplete (stack : Action × BitVec w) (text address : Str) : Prop :=
  ∀ message, unmarshall stack text address = some message → IsCompleteText text address message

/-- The header line of a number. -/
inductive IsHeaderLine (w : Nat) : Nat → Str → Prop
  | header : IsHeaderLine w 1 header
  | version : IsHeaderLine w 2 (fieldVersion ++ colon :: DialogMessage.version)
  | action {word : Str} {action : Action} (known : convertAction word = .ok action) :
    IsHeaderLine w 3 (fieldAction ++ colon :: word)
  | number {word : Str} {number : BitVec w} (read : stoul w word = .ok number) :
    IsHeaderLine w 4 (fieldSequentalNumber ++ colon :: word)
  | dialogId {word : Str} (nonempty : word ≠ []) :
    IsHeaderLine w 5 (fieldDialogId ++ colon :: word)
  | timestamp {word : Str} {timestamp : BitVec w} (read : stol w word = .ok timestamp) :
    IsHeaderLine w 6 (fieldTimestamp ++ colon :: word)
  | sign {word : Str} (nonempty : word ≠ []) : IsHeaderLine w 7 (fieldSign ++ colon :: word)

/-- The text breaks off: as far as it goes its first seven lines are the header lines, and no
delimiter follows them. -/
def BreaksOff (w : Nat) (text : Str) : Prop :=
  (∀ number line, number < 7 → (getlines text)[number]? = some line →
    IsHeaderLine w (number + 1) line) ∧ bodyDelitimer ∉ (getlines text).drop 7

/-! ## One header line -/

theorem fieldValue_word (name : Str) (nonempty : name ≠ []) (noColon : colon ∉ name) {val : Str}
    (value : val ≠ []) : fieldValue (name ++ colon :: val) name = some val := by
  rw [fieldValue_line name nonempty noColon, if_neg value]

/-- A line carries the field `name` exactly if it is `name:val` with a value. -/
theorem fieldValue_eq_some {line name val : Str} (nonempty : name ≠ []) (noColon : colon ∉ name) :
    fieldValue line name = some val ↔ line = name ++ colon :: val ∧ val ≠ [] := by
  constructor
  · intro found
    have parts := List.takeWhile_append_dropWhile (p := (· ≠ colon)) (l := line)
    have rest : line.drop (line.takeWhile (· ≠ colon)).length = line.dropWhile (· ≠ colon) := by
      have cut := congrArg (List.drop (line.takeWhile (· ≠ colon)).length) parts
      rw [List.drop_left] at cut
      exact cut.symm
    simp only [fieldValue, splitKeyVal, rest] at found
    cases behind : line.dropWhile (· ≠ colon) with
    | nil =>
      rw [behind] at found
      cases found
    | cons c after =>
      have isColon : c = colon := by
        have some : line.dropWhile (· ≠ colon) ≠ [] := by
          rw [behind]
          exact List.cons_ne_nil c after
        have stops := List.head_dropWhile_not (· ≠ colon) some
        simp only [behind, List.head_cons] at stops
        simpa using stops
      rw [behind] at found parts
      simp only at found
      split at found
      · rename_i key val' shape
        split at shape
        · cases shape
        · rename_i value
          cases shape
          split at found
          · rename_i same
            cases found
            rw [← parts, same, isColon]
            exact ⟨rfl, fun empty => value (.inl empty)⟩
          · cases found
      · cases found
  · rintro ⟨rfl, value⟩
    exact fieldValue_word name nonempty noColon value

/-- A line before the eighth one that no header branch takes is refused. -/
theorem prepareTextLine_of_header {lineNumber : Nat} (early : lineNumber < 8) (line : Str)
    {fields : MessageFields w} (state : fields.state = .header) :
    prepareTextLine line lineNumber fields = none := by
  rw [prepareTextLine, if_neg (fun late => by omega), if_neg (by simp [state]),
    if_neg (by simp [state])]

/-- The state after a header line. -/
def stateAfter (lineNumber : Nat) : FieldsState := if lineNumber = 7 then .signature else .header

/-- What is taken before the eighth line is the header line of its number. -/
theorem isHeaderLine_of_taken {lineNumber : Nat} (first : 1 ≤ lineNumber) (early : lineNumber < 8)
    {line : Str} {fields next : MessageFields w} (state : fields.state = .header)
    (taken : prepareLine line lineNumber fields = .ok (some next)) :
    IsHeaderLine w lineNumber line ∧ next.state = stateAfter lineNumber := by
  have refused := prepareTextLine_of_header early line state
  unfold prepareLine at taken
  split at taken
  case h_8 => interval_cases lineNumber <;> contradiction
  case h_1 =>
    split at taken
    · rename_i same
      cases taken
      exact same ▸ ⟨.header, state⟩
    · simp [refused] at taken
  all_goals
    split at taken
    swap
    · simp [refused] at taken
    rename_i word found
    obtain ⟨rfl, nonempty⟩ := (fieldValue_eq_some (by decide) (by decide)).mp found
  · split at taken
    · rename_i same
      cases taken
      exact same ▸ ⟨.version, state⟩
    · simp [refused] at taken
  · split at taken
    · rename_i action known
      cases taken
      exact ⟨.action known, state⟩
    · cases taken
  · split at taken
    · rename_i number read
      cases taken
      exact ⟨.number read, state⟩
    · cases taken
  · cases taken
    exact ⟨.dialogId nonempty, state⟩
  · split at taken
    · rename_i timestamp read
      cases taken
      exact ⟨.timestamp read, state⟩
    · cases taken
  · cases taken
    exact ⟨.sign nonempty, rfl⟩

/-- The header line of a number is taken. -/
theorem IsHeaderLine.taken {lineNumber : Nat} {line : Str} (row : IsHeaderLine w lineNumber line)
    {fields : MessageFields w} (state : fields.state = .header) :
    ∃ next, prepareLine line lineNumber fields = .ok (some next) ∧
      next.state = stateAfter lineNumber := by
  cases row with
  | header => exact ⟨fields, by simp [prepareLine], state⟩
  | version =>
    have value : fieldValue (fieldVersion ++ colon :: DialogMessage.version) fieldVersion =
        some DialogMessage.version := by decide
    exact ⟨fields, by simp [prepareLine, value], state⟩
  | @action word action known =>
    have nonempty : word ≠ [] := by
      rintro rfl
      cases known
    have value := fieldValue_word fieldAction (by decide) (by decide) nonempty
    exact ⟨{ fields with mAction := action }, by simp [prepareLine, value, known], state⟩
  | @number word number read =>
    have nonempty : word ≠ [] := by
      rintro rfl
      cases read
    have value := fieldValue_word fieldSequentalNumber (by decide) (by decide) nonempty
    exact ⟨{ fields with mSeqNumber := number }, by simp [prepareLine, value, read], state⟩
  | @dialogId word nonempty =>
    have value := fieldValue_word fieldDialogId (by decide) (by decide) nonempty
    exact ⟨{ fields with mDialogId := word }, by simp [prepareLine, value], state⟩
  | @timestamp word timestamp read =>
    have nonempty : word ≠ [] := by
      rintro rfl
      cases read
    have value := fieldValue_word fieldTimestamp (by decide) (by decide) nonempty
    exact ⟨{ fields with timestamp := timestamp }, by simp [prepareLine, value, read], state⟩
  | @sign word nonempty =>
    have value := fieldValue_word fieldSign (by decide) (by decide) nonempty
    exact ⟨{ fields with signature := word, state := .signature }, by simp [prepareLine, value], rfl⟩

/-! ## The lines of a text -/

/-- The state in front of the line of a number. -/
def StateBefore (lineNumber : Nat) (fields : MessageFields w) : Prop :=
  fields.state = .header ↔ lineNumber < 8

/-- From line 8 on every line is taken. -/
theorem taken_of_ge {lineNumber : Nat} (late : 8 ≤ lineNumber) (line : Str)
    {fields : MessageFields w} (state : StateBefore lineNumber fields) :
    ∃ next, prepareLine line lineNumber fields = .ok (some next) ∧
      StateBefore (lineNumber + 1) next := by
  rw [prepareLine_of_ge late, prepareTextLine]
  have text : fields.state ≠ .header := fun header => absurd (state.mp header) (by omega)
  have next : ∀ next : MessageFields w, next.state ≠ .header → StateBefore (lineNumber + 1) next :=
    fun _ other => iff_of_false other (by omega)
  split_ifs with delitimer signature body
  · exact ⟨_, rfl, next _ (by simp)⟩
  · exact ⟨_, rfl, next _ text⟩
  · exact ⟨_, rfl, next _ text⟩
  · cases shape : fields.state <;> simp_all

/-- The lines are taken if and only if those before the eighth one are the header lines. -/
theorem prepareLines_isSome_iff {lines : List Str} {lineNumber : Nat} (first : 1 ≤ lineNumber)
    {fields : MessageFields w} (state : StateBefore lineNumber fields) :
    (prepareLines lines lineNumber fields).isSome ↔
      ∀ i line, lineNumber + i < 8 → lines[i]? = some line → IsHeaderLine w (lineNumber + i) line := by
  induction lines generalizing lineNumber fields with
  | nil => simp [prepareLines]
  | cons line rest ih =>
    have shift : (∀ i other, lineNumber + i < 8 → (line :: rest)[i]? = some other →
        IsHeaderLine w (lineNumber + i) other) ↔
        (lineNumber < 8 → IsHeaderLine w lineNumber line) ∧ ∀ i other, lineNumber + 1 + i < 8 →
          rest[i]? = some other → IsHeaderLine w (lineNumber + 1 + i) other := by
      constructor
      · intro rows
        refine ⟨fun early => rows 0 line early rfl, ?_⟩
        intro i other early found
        have row := rows (i + 1) other (by omega) found
        rwa [← Nat.add_assoc, Nat.add_right_comm] at row
      · rintro ⟨row, rows⟩ (_ | i) other early found
        · cases found
          exact row early
        · have later := rows i other (by omega) found
          rwa [Nat.add_right_comm, Nat.add_assoc] at later
    rw [shift]
    have step : ∀ next, prepareLine line lineNumber fields = .ok (some next) →
        prepareLines (line :: rest) lineNumber fields =
          prepareLines rest (lineNumber + 1) next := by
      intro next taken
      simp only [prepareLines, taken]
    have follows : ∀ next : MessageFields w, lineNumber < 8 → next.state = stateAfter lineNumber →
        StateBefore (lineNumber + 1) next := by
      intro next early reached
      rw [StateBefore, reached, stateAfter]
      split_ifs with last
      · exact iff_of_false (by simp) (by omega)
      · exact iff_of_true rfl (by omega)
    by_cases early : lineNumber < 8
    · rw [imp_iff_right early]
      constructor
      · intro accepted
        cases outcome : prepareLine line lineNumber fields with
        | error e => simp [prepareLines, outcome] at accepted
        | ok result =>
          cases result with
          | none => simp [prepareLines, outcome] at accepted
          | some next =>
            obtain ⟨row, reached⟩ := isHeaderLine_of_taken first early (state.mpr early) outcome
            rw [step next outcome] at accepted
            exact ⟨row, (ih (by omega) (follows next early reached)).mp accepted⟩
      · rintro ⟨row, rows⟩
        obtain ⟨next, taken, reached⟩ := row.taken (state.mpr early)
        rw [step next taken]
        exact (ih (by omega) (follows next early reached)).mpr rows
    · obtain ⟨next, taken, reached⟩ := taken_of_ge (by omega) line state
      rw [step next taken, ih (by omega) reached]
      exact ⟨fun rows => ⟨fun before => absurd before early, rows⟩, And.right⟩

/-- A text gives a message if and only if its first lines are the header lines, as far as it
goes. -/
theorem unmarshall_isSome_iff (stack : Action × BitVec w) (text address : Str) :
    (unmarshall stack text address).isSome ↔ ∀ number line, number < 7 →
      (getlines text)[number]? = some line → IsHeaderLine w (number + 1) line := by
  have read : (unmarshall stack text address).isSome =
      (prepareLines (getlines text) 1 (MessageFields.init stack)).isSome := by
    rw [unmarshall]
    cases prepareLines (getlines text) 1 (MessageFields.init stack) <;> rfl
  rw [read, prepareLines_isSome_iff (by omega) (iff_of_true rfl (by omega))]
  constructor
  · intro rows number line early found
    rw [Nat.add_comm]
    exact rows number line (by omega) found
  · intro rows number line early found
    rw [Nat.add_comm]
    exact rows number line (by omega) found

/-- Seven header lines and a delimiter behind them are a complete text. -/
theorem exists_wireFields {lines : List Str} (rows : ∀ number line, number < 7 →
    lines[number]? = some line → IsHeaderLine w (number + 1) line)
    (delitimer : bodyDelitimer ∈ lines.drop 7) :
    ∃ fields : WireFields, lines = fields.lines ∧ bodyDelitimer ∉ fields.signRest ∧
      fields.dialogId ≠ [] ∧ fields.sign ≠ [] ∧
      (∃ action, convertAction fields.action = .ok action) ∧
      (∃ number, stoul w fields.number = .ok number) ∧
      ∃ timestamp, stol w fields.timestamp = .ok timestamp := by
  obtain ⟨l₁, l₂, l₃, l₄, l₅, l₆, l₇, rest, rfl⟩ :
      ∃ l₁ l₂ l₃ l₄ l₅ l₆ l₇ rest, lines = l₁ :: l₂ :: l₃ :: l₄ :: l₅ :: l₆ :: l₇ :: rest := by
    rcases lines with _ | ⟨l₁, _ | ⟨l₂, _ | ⟨l₃, _ | ⟨l₄, _ | ⟨l₅, _ | ⟨l₆, _ | ⟨l₇, rest⟩⟩⟩⟩⟩⟩⟩
    all_goals first
      | exact ⟨l₁, l₂, l₃, l₄, l₅, l₆, l₇, rest, rfl⟩
      | simp at delitimer
  obtain ⟨signRest, body, rfl, first⟩ := List.eq_append_cons_of_mem delitimer
  cases rows 0 l₁ (by omega) rfl
  cases rows 1 l₂ (by omega) rfl
  cases rows 2 l₃ (by omega) rfl with | @action action _ known
  cases rows 3 l₄ (by omega) rfl with | @number number _ numberRead
  cases rows 4 l₅ (by omega) rfl with | @dialogId dialogId named
  cases rows 5 l₆ (by omega) rfl with | @timestamp timestamp _ timestampRead
  cases rows 6 l₇ (by omega) rfl with | @sign sign signed
  exact ⟨⟨action, number, dialogId, timestamp, sign, signRest, body⟩, rfl, first, named, signed,
    ⟨_, known⟩, ⟨_, numberRead⟩, _, timestampRead⟩

/-- The message of a complete text. -/
theorem unmarshall_wireFields (stack : Action × BitVec w) {text : Str} (address : Str)
    {fields : WireFields} (lines : getlines text = fields.lines) {message : DialogMessage w}
    (give : fields.Give message address) : unmarshall stack text address = some message := by
  obtain ⟨mAction, mContent, mDialogId, mAdress, mSign, mSequentialNumber, mTimestamp⟩ := message
  obtain ⟨action, number, ⟨named, dialogId⟩, timestamp, ⟨signed, first, sign⟩, content, rfl⟩ := give
  simp only at action number dialogId timestamp sign content
  have actionWord : fields.action ≠ [] := by
    intro empty
    rw [empty] at action
    cases action
  have numberWord : fields.number ≠ [] := by
    intro empty
    rw [empty] at number
    cases number
  have timestampWord : fields.timestamp ≠ [] := by
    intro empty
    rw [empty] at timestamp
    cases timestamp
  have version : fieldValue (fieldVersion ++ colon :: DialogMessage.version) fieldVersion =
      some DialogMessage.version := by decide
  have actionValue := fieldValue_word fieldAction (by decide) (by decide) actionWord
  have numberValue := fieldValue_word fieldSequentalNumber (by decide) (by decide) numberWord
  have dialogValue := fieldValue_word fieldDialogId (by decide) (by decide) named
  have timestampValue := fieldValue_word fieldTimestamp (by decide) (by decide) timestampWord
  have signValue := fieldValue_word fieldSign (by decide) (by decide) signed
  have taken : prepareLines fields.headerLines 1 (MessageFields.init stack) = some {
      MessageFields.init stack with
        mAction, mDialogId, mSeqNumber := mSequentialNumber, timestamp := mTimestamp
        signature := fields.sign, state := .signature } := by
    simp [WireFields.headerLines, prepareLines, prepareLine, version, actionValue, action,
      numberValue, number, dialogValue, dialogId, timestampValue, timestamp, signValue]
  have seven : fields.headerLines.length = 7 := rfl
  rw [unmarshall, lines, WireFields.lines, prepareLines_append, taken, Option.bind_some, seven,
    prepareLines_append, prepareLines_signature first (by omega) rfl, Option.bind_some,
    prepareLines_delitimer _ (by omega), prepareLines_body _ (by omega) rfl]
  simp [MessageFields.init, sign, content]

/-- A text gives complete messages only, if and only if it does not break off. -/
theorem accepts_only_complete_iff (stack : Action × BitVec w) (text address : Str) :
    AcceptsOnlyComplete stack text address ↔ ¬ BreaksOff w text := by
  constructor
  · rintro complete ⟨rows, noDelitimer⟩
    have accepted := (unmarshall_isSome_iff stack text address).mpr rows
    obtain ⟨message, parsed⟩ := Option.isSome_iff_exists.mp accepted
    obtain ⟨fields, lines, -⟩ := complete message parsed
    apply noDelitimer
    rw [lines]
    simp [WireFields.lines, WireFields.headerLines]
  · intro whole message parsed
    have rows := (unmarshall_isSome_iff stack text address).mp (by rw [parsed]; rfl)
    have delitimer : bodyDelitimer ∈ (getlines text).drop 7 := by
      by_contra noDelitimer
      exact whole ⟨rows, noDelitimer⟩
    obtain ⟨fields, lines, first, named, signed, ⟨action, known⟩, ⟨number, numberRead⟩, timestamp,
      timestampRead⟩ := exists_wireFields rows delitimer
    have give : fields.Give (⟨action, _, fields.dialogId, address, _, number, timestamp⟩ :
        DialogMessage w) address :=
      ⟨known, numberRead, ⟨named, rfl⟩, timestampRead, ⟨signed, first, rfl⟩, rfl, rfl⟩
    have expected := unmarshall_wireFields stack address lines give
    obtain rfl := Option.some.inj (expected.symm.trans parsed)
    exact ⟨fields, lines, give⟩

end

/-- The empty text gives a message, with whatever action and timestamp the stack held. -/
theorem empty_text_accepted :
    unmarshall ((.message, 7) : Action × BitVec 64) [] (str "peer@mail") =
        some ⟨.message, [], [], str "peer@mail", [], 0, 7⟩ ∧
      ¬ AcceptsOnlyComplete ((.message, 7) : Action × BitVec 64) [] (str "peer@mail") := by
  refine ⟨by decide +kernel, ?_⟩
  intro complete
  obtain ⟨fields, lines, -⟩ := complete _ rfl
  cases lines

end SecureDialogues
