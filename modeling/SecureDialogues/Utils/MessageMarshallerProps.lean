import SecureDialogues.Utils.MessageMarshaller

/-!
# Reading back a printed message

What `unmarshall` returns for a text that `printMessage` wrote. The header is read line by line;
the signature and the body are inductions over their lines with the parser's state fixed to
`SIGNATURE` and to `BODY`.
-/

namespace SecureDialogues

open Text

/-! ## The trimming loop -/

/-- The loop over a text whose last `k` characters are NULs already. -/
private theorem blankTrailing_append_zeros (s : Str) (k : Nat) :
    ∃ zeros : Nat, blankTrailing s.length (s ++ List.replicate k 0) =
      rstrip s ++ List.replicate zeros 0 := by
  induction s using List.reverseRecOn generalizing k with
  | nil => exact ⟨k, rfl⟩
  | append_singleton s c ih =>
    rw [List.length_append, List.length_singleton, blankTrailing]
    have last : (s ++ [c] ++ List.replicate k 0).getD s.length 0 = c := by simp
    rw [last]
    by_cases blank : isspace c = true
    · rw [if_pos blank, rstrip, List.rdropWhile_concat_pos _ _ _ blank]
      have overwritten : (s ++ [c] ++ List.replicate k 0).set s.length 0 =
          s ++ List.replicate (k + 1) 0 := by
        simp [List.replicate_succ]
      rw [overwritten]
      exact ih (k + 1)
    · rw [if_neg blank, rstrip, List.rdropWhile_concat_neg _ _ _ blank]
      exact ⟨k, rfl⟩

/-- The content that is printed and that is handed to the parsed message: without its trailing
white space, and cut at the first NUL. -/
theorem trimmed_eq (content : Str) : trimmed content = cstr (rstrip content) := by
  obtain ⟨zeros, blanked⟩ := blankTrailing_append_zeros content 0
  rw [List.replicate_zero, List.append_nil] at blanked
  rw [trimmed, blanked, cstr_append_zeros]

theorem zero_notMem_trimmed (content : Str) : 0 ∉ trimmed content := by
  rw [trimmed_eq]
  exact zero_notMem_cstr _

theorem trimmed_of_clean {content : Str} (clean : 0 ∉ content) :
    trimmed content = rstrip content := by
  rw [trimmed_eq, cstr_of_notMem]
  intro member
  exact clean ((List.rdropWhile_prefix isspace content).subset member)

/-! ## One line -/

/-- A line `name:val` carries the field `name` exactly if there is a value. -/
theorem fieldValue_line (name : Str) (nonempty : name ≠ []) (noColon : colon ∉ name) (val : Str) :
    fieldValue (name ++ colon :: val) name = if val = [] then none else some val := by
  have key : (name ++ colon :: val).takeWhile (· ≠ colon) = name := by
    rw [List.takeWhile_append_of_pos]
    · simp
    · intro c member
      simpa using fun same : c = colon => noColon (same ▸ member)
  simp only [fieldValue, splitKeyVal, key]
  rw [List.drop_left]
  by_cases empty : val = [] <;> simp [empty, nonempty]

theorem convertAction_actionText (action : Action) :
    convertAction (actionText action) = .ok action := by
  cases action <;> decide

theorem actionText_ne_nil (action : Action) : actionText action ≠ [] := by
  cases action <;> decide

theorem newline_notMem_actionText (action : Action) : newline ∉ actionText action := by
  cases action <;> decide

section

variable {w : Nat}

/-- From line 8 on only the state decides what a line is. -/
theorem prepareLine_of_ge {lineNumber : Nat} (late : 8 ≤ lineNumber) (line : Str)
    (fields : MessageFields w) :
    prepareLine line lineNumber fields = .ok (prepareTextLine line lineNumber fields) := by
  unfold prepareLine
  split <;> first | omega | rfl

/-- The dialog identifier is taken from within a line. -/
theorem newline_notMem_prepareLine {line : Str} (noBreak : newline ∉ line) {lineNumber : Nat}
    {fields next : MessageFields w} (clean : newline ∉ fields.mDialogId)
    (taken : prepareLine line lineNumber fields = .ok (some next)) : newline ∉ next.mDialogId := by
  have text : ∀ {next}, prepareTextLine line lineNumber fields = some next →
      newline ∉ next.mDialogId := by
    intro next taken
    unfold prepareTextLine at taken
    split_ifs at taken <;> cases taken <;> exact clean
  have value : ∀ {name val : Str}, fieldValue line name = some val → newline ∉ val := by
    intro name val found
    unfold fieldValue at found
    split at found
    · rename_i key rest parts
      have inside : ∀ c ∈ rest, c ∈ line := by
        intro c member
        simp only [splitKeyVal] at parts
        split at parts
        · cases parts
        · rename_i sep after cut
          split at parts
          · cases parts
          · cases parts
            exact List.mem_of_mem_drop (cut ▸ List.mem_cons_of_mem _ member)
      split at found
      · cases found
        intro member
        exact noBreak (inside _ member)
      · cases found
    · cases found
  unfold prepareLine at taken
  split at taken
  case h_5 =>
    split at taken
    · rename_i val found
      cases taken
      exact value found
    · exact text (Except.ok.inj taken)
  all_goals repeat' split at taken
  all_goals first
    | exact text (Except.ok.inj taken)
    | cases taken <;> exact clean

/-! ## Rows of lines -/

theorem prepareLines_append (first rest : List Str) (lineNumber : Nat)
    (fields : MessageFields w) :
    prepareLines (first ++ rest) lineNumber fields =
      (prepareLines first lineNumber fields).bind
        (prepareLines rest (lineNumber + first.length)) := by
  induction first generalizing lineNumber fields with
  | nil => rfl
  | cons line first ih =>
    simp only [List.cons_append, prepareLines, List.length_cons]
    split
    · rw [ih, Nat.add_assoc, Nat.add_comm 1]
    · rfl
    · rfl

/-- The lines of a signature after its first one. -/
theorem prepareLines_signature {lines : List Str} (noDelitimer : bodyDelitimer ∉ lines)
    {lineNumber : Nat} (late : 8 ≤ lineNumber) {fields : MessageFields w}
    (signature : fields.state = .signature) :
    prepareLines lines lineNumber fields =
      some { fields with signature := fields.signature ++ lines.flatMap (newline :: ·) } := by
  induction lines generalizing lineNumber fields with
  | nil => simp [prepareLines]
  | cons line lines ih =>
    simp only [List.mem_cons, not_or] at noDelitimer
    have taken : prepareTextLine line lineNumber fields =
        some { fields with signature := fields.signature ++ newline :: line } := by
      simp [prepareTextLine, Ne.symm noDelitimer.1, signature]
    simp only [prepareLines, prepareLine_of_ge late, taken]
    refine (ih noDelitimer.2 (by omega) ?_).trans ?_
    · exact signature
    · simp

/-- The delimiter opens the body. -/
theorem prepareLines_delitimer (rest : List Str) {lineNumber : Nat} (late : 8 ≤ lineNumber)
    (fields : MessageFields w) :
    prepareLines (bodyDelitimer :: rest) lineNumber fields =
      prepareLines rest (lineNumber + 1) { fields with state := .body } := by
  have taken : prepareTextLine bodyDelitimer lineNumber fields =
      some { fields with state := .body } := if_pos ⟨late, rfl⟩
  simp only [prepareLines, prepareLine_of_ge late, taken]

/-- The lines of a body. A line that equals the delimiter is skipped wherever it stands. -/
theorem prepareLines_body (lines : List Str) {lineNumber : Nat} (late : 8 ≤ lineNumber)
    {fields : MessageFields w} (body : fields.state = .body) :
    prepareLines lines lineNumber fields =
      some { fields with
        mContent := fields.mContent ++ unlines (lines.filter (· ≠ bodyDelitimer)) } := by
  induction lines generalizing lineNumber fields with
  | nil => simp [prepareLines]
  | cons line lines ih =>
    by_cases delitimer : line = bodyDelitimer
    · have taken : prepareTextLine line lineNumber fields = some fields := by
        rw [prepareTextLine, if_pos ⟨late, delitimer⟩, ← body]
      simp only [prepareLines, prepareLine_of_ge late, taken]
      rw [ih (by omega) body]
      simp [delitimer]
    · have taken : prepareTextLine line lineNumber fields =
          some { fields with mContent := fields.mContent ++ (line ++ [newline]) } := by
        simp [prepareTextLine, delitimer, body]
      simp only [prepareLines, prepareLine_of_ge late, taken]
      refine (ih (by omega) ?_).trans ?_
      · exact body
      · simp [delitimer]

/-! ## A printed message -/

/-- The lines in front of the signature. -/
def headerLines (message : DialogMessage w) : List Str :=
  [header,
    fieldVersion ++ colon :: DialogMessage.version,
    fieldAction ++ colon :: actionText message.mAction,
    fieldSequentalNumber ++ colon :: printNat message.mSequentialNumber.toNat,
    fieldDialogId ++ colon :: message.mDialogId,
    fieldTimestamp ++ colon :: printInt message.mTimestamp.toInt]

theorem getlines_printMessage {message : DialogMessage w} (noBreak : newline ∉ message.mDialogId)
    {sign row : Str} {rows : List Str} (split : sign.splitOn newline = row :: rows) :
    getlines (printMessage message sign) =
      headerLines message ++ (fieldSign ++ colon :: row) :: (rows ++
        bodyDelitimer :: getlines (trimmed message.mContent)) := by
  have signLines : (fieldSign ++ colon :: sign).splitOn newline =
      (fieldSign ++ colon :: row) :: rows := by
    simpa using splitOn_append_head (fieldSign ++ [colon]) (by decide) split
  have text : printMessage message sign = unlines (headerLines message) ++
      ((fieldSign ++ colon :: sign) ++ newline :: (bodyDelitimer ++ newline ::
        trimmed message.mContent)) := by
    simp [printMessage, headerLines]
  rw [text, getlines_unlines, getlines_append_newline, signLines, getlines_line (by decide)]
  · rfl
  · intro line member
    simp only [headerLines, List.mem_cons, List.not_mem_nil, or_false] at member
    rcases member with rfl | rfl | rfl | rfl | rfl | rfl
    · decide
    · decide
    · rw [List.mem_append, List.mem_cons, not_or, not_or]
      exact ⟨by decide, by decide, newline_notMem_actionText _⟩
    · rw [List.mem_append, List.mem_cons, not_or, not_or]
      exact ⟨by decide, by decide, newline_notMem_printNat _⟩
    · rw [List.mem_append, List.mem_cons, not_or, not_or]
      exact ⟨by decide, by decide, noBreak⟩
    · rw [List.mem_append, List.mem_cons, not_or, not_or]
      exact ⟨by decide, by decide, newline_notMem_printInt _⟩

/-- The fields after the header lines of a message. -/
def headerFields (message : DialogMessage w) (stack : Action × BitVec w) : MessageFields w :=
  { MessageFields.init stack with
    mAction := message.mAction
    mSeqNumber := message.mSequentialNumber
    mDialogId := message.mDialogId
    timestamp := message.mTimestamp }

/-- The header is read at any width at which its two numbers can be, unless the dialog identifier
is empty. -/
theorem prepareLines_headerLines_at {w' : Nat} (message : DialogMessage w)
    (stack : Action × BitVec w') :
    prepareLines (headerLines message) 1 (MessageFields.init stack) =
      match stoul w' (printNat message.mSequentialNumber.toNat),
        stol w' (printInt message.mTimestamp.toInt) with
      | .ok number, .ok timestamp =>
        if message.mDialogId = [] then none
        else some { MessageFields.init stack with
          mAction := message.mAction
          mSeqNumber := number
          mDialogId := message.mDialogId
          timestamp := timestamp }
      | _, _ => none := by
  have version : fieldValue (fieldVersion ++ colon :: DialogMessage.version) fieldVersion =
      some DialogMessage.version := by decide
  have action := fieldValue_line fieldAction (by decide) (by decide)
    (actionText message.mAction)
  have number := fieldValue_line fieldSequentalNumber (by decide) (by decide)
    (printNat message.mSequentialNumber.toNat)
  have dialogId := fieldValue_line fieldDialogId (by decide) (by decide)
    message.mDialogId
  have timestamp := fieldValue_line fieldTimestamp (by decide) (by decide)
    (printInt message.mTimestamp.toInt)
  rw [if_neg (actionText_ne_nil _)] at action
  rw [if_neg (printNat_ne_nil _)] at number
  rw [if_neg (printInt_ne_nil _)] at timestamp
  simp only [headerLines, prepareLines, prepareLine, if_true, version, action, number, timestamp,
    convertAction_actionText, dialogId]
  cases stoul w' (printNat message.mSequentialNumber.toNat) with
  | error e => rfl
  | ok number =>
    by_cases empty : message.mDialogId = []
    · cases stol w' (printInt message.mTimestamp.toInt) <;>
        simp [empty, prepareTextLine, MessageFields.init]
    · cases stol w' (printInt message.mTimestamp.toInt) <;> simp [empty, MessageFields.init]

/-- The header is read back, unless the dialog identifier is empty. -/
theorem prepareLines_headerLines (message : DialogMessage w) (stack : Action × BitVec w) :
    prepareLines (headerLines message) 1 (MessageFields.init stack) =
      if message.mDialogId = [] then none else some (headerFields message stack) := by
  rw [prepareLines_headerLines_at, stoul_printNat, stol_printInt]
  rfl

/-- The content that comes back for a printed content: the delimiter lines are lost. -/
def readContent (content : Str) : Str :=
  trimmed (unlines ((getlines content).filter (· ≠ bodyDelitimer)))

/-- What `unmarshall` makes of a printed message whose signature has no delimiter line. It
refuses an empty dialog identifier and a signature whose first line is empty. -/
theorem unmarshall_printMessage (stack : Action × BitVec w) {message : DialogMessage w}
    (noBreak : newline ∉ message.mDialogId) {sign : Str}
    (noDelitimer : bodyDelitimer ∉ sign.splitOn newline) (address : Str) :
    unmarshall stack (printMessage message sign) address =
      if message.mDialogId = [] ∨ sign = [] ∨ sign.head? = some newline then none
      else some { message with
        mAdress := address, mSign := sign
        mContent := readContent (trimmed message.mContent) } := by
  obtain ⟨row, rows, split⟩ := List.exists_cons_of_ne_nil (List.splitOn_ne_nil newline sign)
  have rowEmpty : row = [] ↔ sign = [] ∨ sign.head? = some newline := by
    have whole := flatMap_splitOn_tail split
    constructor
    · rintro rfl
      cases rows with
      | nil => exact .inl (by simpa using whole.symm)
      | cons next rows => exact .inr (by rw [← whole]; rfl)
    · rintro (rfl | first)
      · simpa using (List.append_eq_nil_iff.mp whole).1
      · cases sign with
        | nil => simp at first
        | cons c sign =>
          obtain rfl : c = newline := by simpa using first
          rw [List.splitOn_cons_eq_if_modifyHead] at split
          simp only [beq_self_eq_true, if_true, List.cons.injEq] at split
          exact split.1.symm
  rw [split, List.mem_cons, not_or] at noDelitimer
  rw [unmarshall, getlines_printMessage noBreak split, prepareLines_append,
    prepareLines_headerLines]
  by_cases empty : message.mDialogId = []
  · simp [empty]
  · have signLine := fieldValue_line fieldSign (by decide) (by decide) row
    simp only [empty, if_false, Option.bind_some, headerLines, List.length_cons, List.length_nil,
      prepareLines, prepareLine, signLine, false_or, ← rowEmpty]
    by_cases unsigned : row = []
    · simp [unsigned, prepareTextLine, headerFields, MessageFields.init]
    · simp only [unsigned, if_false]
      rw [prepareLines_append, prepareLines_signature noDelitimer.2 (by omega) rfl,
        Option.bind_some]
      rw [prepareLines_delitimer _ (by omega), prepareLines_body _ (by omega) rfl]
      simp [headerFields, MessageFields.init, flatMap_splitOn_tail split, readContent]

/-- A parsed dialog identifier is part of a line. -/
theorem newline_notMem_dialogId {stack : Action × BitVec w} {text address : Str}
    {message : DialogMessage w} (parsed : unmarshall stack text address = some message) :
    newline ∉ message.mDialogId := by
  have lines : ∀ (lines : List Str) (lineNumber : Nat) (fields fields' : MessageFields w),
      (∀ line ∈ lines, newline ∉ line) → newline ∉ fields.mDialogId →
      prepareLines lines lineNumber fields = some fields' → newline ∉ fields'.mDialogId := by
    intro lines
    induction lines with
    | nil =>
      intro _ fields fields' _ clean read
      cases read
      exact clean
    | cons line lines ih =>
      intro lineNumber fields fields' noBreak clean read
      rw [List.forall_mem_cons] at noBreak
      simp only [prepareLines] at read
      split at read
      · rename_i next taken
        exact ih _ next fields' noBreak.2 (newline_notMem_prepareLine noBreak.1 clean taken) read
      · cases read
      · cases read
  unfold unmarshall at parsed
  split at parsed
  · cases parsed
  · rename_i fields read
    cases parsed
    exact lines _ 1 _ fields (fun _ => newline_notMem_of_mem_getlines) List.not_mem_nil read

/-! ## The action -/

/-- After the third line no line changes the action. -/
theorem mAction_of_prepareLine {line : Str} {lineNumber : Nat} (later : 4 ≤ lineNumber)
    {fields next : MessageFields w} (taken : prepareLine line lineNumber fields = .ok (some next)) :
    next.mAction = fields.mAction := by
  have text : ∀ {next}, prepareTextLine line lineNumber fields = some next →
      next.mAction = fields.mAction := by
    intro next taken
    unfold prepareTextLine at taken
    split_ifs at taken <;> cases taken <;> rfl
  unfold prepareLine at taken
  split at taken
  case h_1 | h_2 | h_3 => omega
  all_goals repeat' split at taken
  all_goals first
    | exact text (Except.ok.inj taken)
    | cases taken <;> rfl

theorem mAction_of_prepareLines {lines : List Str} {lineNumber : Nat} (later : 4 ≤ lineNumber)
    {fields read : MessageFields w} (taken : prepareLines lines lineNumber fields = some read) :
    read.mAction = fields.mAction := by
  induction lines generalizing lineNumber fields with
  | nil =>
    cases taken
    rfl
  | cons line lines ih =>
    simp only [prepareLines] at taken
    split at taken
    · rename_i next first
      rw [ih (by omega) taken, mAction_of_prepareLine later first]
    · cases taken
    · cases taken

/-- Whatever else becomes of a printed message, it is read with its action or not at all. -/
theorem mAction_of_unmarshall_marshall {stack : Action × BitVec w} {message : DialogMessage w}
    {address : Str} {read : DialogMessage w}
    (parsed : unmarshall stack (marshall message) address = some read) :
    read.mAction = message.mAction := by
  obtain ⟨rest, text⟩ : ∃ rest, marshall message =
      unlines ((headerLines message).take 3) ++ rest := by
    simp only [marshall, printMessage, headerLines, List.take_succ_cons, List.take_zero,
      unlines_cons, unlines_nil, List.append_assoc, List.cons_append, List.nil_append]
    exact ⟨_, rfl⟩
  have lines : getlines (marshall message) = (headerLines message).take 3 ++ getlines rest := by
    rw [text]
    apply getlines_unlines
    intro line member
    simp only [headerLines, List.take_succ_cons, List.take_zero, List.mem_cons, List.not_mem_nil,
      or_false] at member
    rcases member with rfl | rfl | rfl
    · decide
    · decide
    · rw [List.mem_append, List.mem_cons, not_or, not_or]
      exact ⟨by decide, by decide, newline_notMem_actionText _⟩
  have first : prepareLines ((headerLines message).take 3) 1 (MessageFields.init stack) =
      some { MessageFields.init stack with mAction := message.mAction } := by
    have version : fieldValue (fieldVersion ++ colon :: DialogMessage.version) fieldVersion =
        some DialogMessage.version := by decide
    have action := fieldValue_line fieldAction (by decide) (by decide) (actionText message.mAction)
    rw [if_neg (actionText_ne_nil _)] at action
    simp only [headerLines, List.take_succ_cons, List.take_zero, prepareLines, prepareLine, if_true,
      version, action, convertAction_actionText]
  unfold unmarshall at parsed
  rw [lines, prepareLines_append, first, Option.bind_some] at parsed
  split at parsed
  · cases parsed
  · rename_i fields taken
    cases parsed
    exact mAction_of_prepareLines (by simp [headerLines]) taken

/-! ## The content that comes back -/

theorem unlines_getlines_of_clean {content : Str} (clean : 0 ∉ content) :
    trimmed (unlines (getlines content)) = rstrip content := by
  rw [unlines_getlines]
  split
  · exact trimmed_of_clean clean
  · rw [trimmed_of_clean (by simpa [newline] using clean),
      rstrip_append_blank (by simpa using isspace_newline)]

/-- Without a delimiter line only trailing white space is lost. -/
theorem readContent_of_noDelitimer {content : Str} (clean : 0 ∉ content)
    (noDelitimer : bodyDelitimer ∉ getlines content) : readContent content = rstrip content := by
  have all : (getlines content).filter (· ≠ bodyDelitimer) = getlines content := by
    rw [List.filter_eq_self]
    intro line member
    simpa using fun same : line = bodyDelitimer => noDelitimer (same ▸ member)
  rw [readContent, all, unlines_getlines_of_clean clean]

theorem length_trimmed_le (content : Str) : (trimmed content).length ≤ content.length := by
  rw [trimmed_eq]
  exact (cstr_length_le _).trans (rstrip_length_le _)

/-- A delimiter line in the body makes the content shorter. -/
theorem readContent_length_lt {content : Str} (delitimer : bodyDelitimer ∈ getlines content) :
    (readContent content).length < content.length := by
  have parts := unlines_length_filter (getlines content) (· ≠ bodyDelitimer)
  have lost : bodyDelitimer.length < (unlines ((getlines content).filter fun line =>
      !decide (line ≠ bodyDelitimer))).length :=
    le_length_unlines_of_mem (List.mem_filter.mpr ⟨delitimer, by simp⟩)
  have whole : (unlines (getlines content)).length ≤ content.length + 1 := by
    rw [unlines_getlines]
    split <;> simp
  have width : bodyDelitimer.length = 62 := by decide
  have cut := length_trimmed_le (unlines ((getlines content).filter (· ≠ bodyDelitimer)))
  rw [readContent]
  omega

/-! ## The round trip -/

/-- The characters of Base64. -/
def isBase64 (c : UInt8) : Bool :=
  (65 ≤ c && c ≤ 90) || (97 ≤ c && c ≤ 122) || isdigit c || c == 43 || c == 47 || c == 61

/-- A non-empty Base64 text, in any number of lines. -/
def IsBase64Text (s : Str) : Prop := s ≠ [] ∧ ∀ c ∈ s, isBase64 c = true ∨ c = newline

instance : DecidablePred IsBase64Text := fun s =>
  inferInstanceAs (Decidable (s ≠ [] ∧ ∀ c ∈ s, isBase64 c = true ∨ c = newline))

/-- The delimiter is made of dashes, which Base64 does not use. -/
theorem IsBase64Text.noDelitimer {s : Str} (base64 : IsBase64Text s) :
    bodyDelitimer ∉ s.splitOn newline := by
  intro member
  obtain ⟨row, rows, split⟩ := List.exists_cons_of_ne_nil (List.splitOn_ne_nil newline s)
  have whole := flatMap_splitOn_tail split
  rw [split, List.mem_cons] at member
  have dash : (45 : UInt8) ∈ s := by
    rw [← whole, List.mem_append]
    rcases member with here | later
    · exact .inl (here ▸ by decide)
    · refine .inr (List.mem_flatMap.mpr ⟨bodyDelitimer, later, ?_⟩)
      exact List.mem_cons_of_mem _ (by decide)
  exact absurd (base64.2 45 dash) (by decide)

/-- `after` is `before` without some of its trailing white space. -/
def OnlyTrailingSpaceRemoved (before after : Str) : Prop :=
  ∃ blank : Str, before = after ++ blank ∧ ∀ c ∈ blank, isspace c = true

/-- The message comes back from the wire text of `marshall` with all its fields, the receiver's
`address` and a content that lost trailing white space at most. -/
def RoundTrips (stack : Action × BitVec w) (message : DialogMessage w) (address : Str) : Prop :=
  ∃ read, unmarshall stack (marshall message) address = some read ∧
    read.mAction = message.mAction ∧
    read.mSequentialNumber = message.mSequentialNumber ∧
    read.mDialogId = message.mDialogId ∧
    read.mTimestamp = message.mTimestamp ∧
    read.mSign = message.mSign ∧
    read.mAdress = address ∧
    OnlyTrailingSpaceRemoved message.mContent read.mContent

/-- What comes back of a content, compared with the content. -/
theorem onlyTrailingSpaceRemoved_readContent (content : Str) :
    OnlyTrailingSpaceRemoved content (readContent (trimmed content)) ↔
      0 ∉ content ∧ bodyDelitimer ∉ getlines (rstrip content) := by
  constructor
  · rintro ⟨blank, whole, spaces⟩
    have clean : 0 ∉ content := by
      rw [whole, List.mem_append, not_or]
      refine ⟨zero_notMem_trimmed _, fun member => ?_⟩
      exact absurd (spaces 0 member) (by decide)
    refine ⟨clean, fun delitimer => ?_⟩
    have shorter := readContent_length_lt delitimer
    have kept : rstrip content = rstrip (readContent (trimmed content)) := by
      conv_lhs => rw [whole]
      exact rstrip_append_blank spaces
    rw [trimmed_of_clean clean] at kept
    have bound := rstrip_length_le (readContent (rstrip content))
    rw [← kept] at bound
    omega
  · rintro ⟨clean, noDelitimer⟩
    have cleanRest : 0 ∉ rstrip content := fun member =>
      clean ((List.rdropWhile_prefix isspace content).subset member)
    rw [trimmed_of_clean clean, readContent_of_noDelitimer cleanRest noDelitimer,
      rstrip_idempotent]
    exact exists_rstrip_append content

/-- The round trip succeeds for exactly the contents without a NUL and without a line that
equals the delimiter, under a signature that does not begin with an empty line. -/
theorem marshall_roundTrips_iff (stack : Action × BitVec w) (message : DialogMessage w)
    (dialogId : message.mDialogId ≠ []) (noBreak : newline ∉ message.mDialogId)
    (sign : IsBase64Text message.mSign) (address : Str) :
    RoundTrips stack message address ↔
      0 ∉ message.mContent ∧ bodyDelitimer ∉ getlines (rstrip message.mContent) ∧
        message.mSign.head? ≠ some newline := by
  have parsed := unmarshall_printMessage stack noBreak sign.noDelitimer address
  rw [← and_assoc, ← onlyTrailingSpaceRemoved_readContent]
  by_cases unsigned : message.mSign.head? = some newline
  · simp [RoundTrips, marshall, parsed, unsigned]
  · simp [RoundTrips, marshall, parsed, unsigned, dialogId, sign.1]

/-- A message whose content meets the condition. -/
theorem shortText_roundTrips :
    let message : DialogMessage 64 :=
      { mAction := .message, mContent := str "see you \n", mDialogId := str "MQ=="
        mAdress := str "peer", mSign := str "c2lnbg==\n", mSequentialNumber := 7
        mTimestamp := 1569263724 }
    RoundTrips (.ack, 0) message (str "me") :=
  (marshall_roundTrips_iff _ _ (by decide) (by decide) (by decide +kernel) _).mpr
    (by decide +kernel)

/-- A content with a line of 62 dashes comes back without that line. -/
theorem delimiterText_not_roundTrips :
    let message : DialogMessage 64 :=
      { mAction := .message, mContent := str "one\n" ++ bodyDelitimer ++ str "\ntwo"
        mDialogId := str "MQ==", mAdress := str "peer", mSign := str "c2lnbg=="
        mSequentialNumber := 7, mTimestamp := 1569263724 }
    message.mDialogId ≠ [] ∧ newline ∉ message.mDialogId ∧ IsBase64Text message.mSign ∧
      ¬ RoundTrips (.ack, 0) message (str "me") := by
  refine ⟨by decide, by decide, by decide +kernel, ?_⟩
  rintro ⟨read, parsed, -, -, -, -, -, -, blank, whole, -⟩
  have content : (some read).map (·.mContent) = some (str "one\ntwo") := by
    rw [← parsed]
    decide +kernel
  have start : str "one\ntwo" <+: str "one\n" ++ bodyDelitimer ++ str "\ntwo" :=
    ⟨blank, Option.some.inj content ▸ whole.symm⟩
  exact absurd start (by decide)

/-! ## The text that is signed and the text that is verified -/

/-- `isSignatureOk` prints, from the message the receiver parsed, the text that
`createSignature` signed on the sender's side. -/
def VerifiesAsSigned (stack : Action × BitVec w) (message : DialogMessage w)
    (sign address : Str) : Prop :=
  ∃ read, unmarshall stack (marshall (message.setSignature sign)) address = some read ∧
    marshallExceptSignature read = marshall message

/-- A trimmed content survives being read and trimmed once more. -/
theorem trimmed_readContent_iff {content : Str} (clean : 0 ∉ content) :
    trimmed (readContent content) = content ↔
      bodyDelitimer ∉ getlines content ∧ rstrip content = content := by
  by_cases delitimer : bodyDelitimer ∈ getlines content
  · have shorter := readContent_length_lt delitimer
    have cut := length_trimmed_le (readContent content)
    refine ⟨fun same => ?_, fun kept => absurd delitimer kept.1⟩
    rw [same] at cut
    omega
  · have cleanRest : 0 ∉ rstrip content := fun member =>
      clean ((List.rdropWhile_prefix isspace content).subset member)
    rw [readContent_of_noDelitimer clean delitimer, trimmed_of_clean cleanRest,
      rstrip_idempotent]
    simp [delitimer]

/-- Two printed messages with one header agree if the signatures and contents do. -/
theorem printMessage_eq_iff (message : DialogMessage w) (content address field : Str)
    {sign : Str} (sameRow : sign.head? ≠ some newline) :
    printMessage { message with mAdress := address, mSign := field, mContent := content } [] =
        printMessage message sign ↔
      sign = [] ∧ trimmed content = trimmed message.mContent := by
  simp only [printMessage, List.append_assoc, List.cons_append, List.append_cancel_left_eq,
    List.cons.injEq, true_and]
  cases sign with
  | nil => simp
  | cons c sign =>
    have different : c ≠ newline := by simpa using sameRow
    simp [Ne.symm different]

/-- Signer and verifier print one text for exactly the messages that start with an empty
signature field and whose trimmed content has neither a delimiter line nor, where a NUL cut it,
white space at its end. -/
theorem verifiesAsSigned_iff (stack : Action × BitVec w) {message : DialogMessage w}
    (noBreak : newline ∉ message.mDialogId) (sameRow : message.mSign.head? ≠ some newline)
    {sign : Str} (base64 : IsBase64Text sign) (address : Str) :
    VerifiesAsSigned stack message sign address ↔
      message.mSign = [] ∧ message.mDialogId ≠ [] ∧ sign.head? ≠ some newline ∧
        bodyDelitimer ∉ getlines (trimmed message.mContent) ∧
        rstrip (trimmed message.mContent) = trimmed message.mContent := by
  have parsed : unmarshall stack (marshall (message.setSignature sign)) address =
      if message.mDialogId = [] ∨ sign = [] ∨ sign.head? = some newline then none
      else some { message with
        mAdress := address, mSign := sign
        mContent := readContent (trimmed message.mContent) } :=
    unmarshall_printMessage stack noBreak base64.noDelitimer address
  rw [VerifiesAsSigned, parsed, ← trimmed_readContent_iff (zero_notMem_trimmed _)]
  by_cases refused : message.mDialogId = [] ∨ sign = [] ∨ sign.head? = some newline
  · rw [if_pos refused]
    rcases refused with empty | empty | empty
    · simp [empty]
    · exact absurd empty base64.1
    · simp [empty]
  · rw [if_neg refused]
    simp only [not_or] at refused
    simp only [Option.some.injEq, exists_eq_left', marshall, marshallExceptSignature]
    rw [printMessage_eq_iff message _ _ _ sameRow]
    simp [refused]

end

end SecureDialogues
