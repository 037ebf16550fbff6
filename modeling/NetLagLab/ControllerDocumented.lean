import NetLagLab.ControllerParsing

/-! The parser of a Controller's commands does what the documentation says of every line. -/

namespace NetLagLab

open ByteLines

namespace ControllerGrammar

section

variable [DecimalText] {tokens : List Bytes} {line : Bytes}

/-- The parser behind the checks of the line and its division into tokens. -/
def parseTokens (tokens : List Bytes) : ControllerParseResult :=
  match tokens with
  | [] => .ignored
  | command :: arguments =>
      if command = ascii "set" then parseSetCommand (command :: arguments)
      else if command = ascii "reset" then parseResetCommand (command :: arguments)
      else if command = ascii "help" then
        if arguments = [] then .command .help else .error .wrongArgumentCount
      else if command = ascii "status" then
        if arguments = [] then .command .status else .error .wrongArgumentCount
      else if command = ascii "stop" then
        if arguments = [] then .command .stop else .error .wrongArgumentCount
      else if command = ascii "detach" then
        if arguments = [] then .command .detach else .error .wrongArgumentCount
      else .error .unknownCommand

omit [DecimalText] in
theorem any_unprintable_iff : line.any (fun byte => decide (byte ≠ 9) && (decide (byte < 32) || decide (126 < byte))) =
    true ↔ ∃ byte ∈ line, ¬Printable byte := by
  rw [List.any_eq_true]
  refine exists_congr fun byte => and_congr_right fun _ => ?_
  simp only [Printable, Bool.and_eq_true, Bool.or_eq_true, decide_eq_true_eq, not_or, not_and_or, UInt8.not_le]

theorem parseControllerCommand_tooLong (h : maximumControllerCommandSize < line.length) :
    parseControllerCommand line = .error .commandTooLong := if_pos h

theorem parseControllerCommand_unprintable (hshort : line.length ≤ maximumControllerCommandSize)
    (h : ∃ byte ∈ line, ¬Printable byte) : parseControllerCommand line = .error .invalidCharacter := by
  rw [parseControllerCommand, if_neg (Nat.not_lt.mpr hshort)]
  exact if_pos (any_unprintable_iff.mpr h)

theorem parseControllerCommand_tokens (hshort : line.length ≤ maximumControllerCommandSize)
    (hprintable : ∀ byte ∈ line, Printable byte) (hspelled : Spells isTokenSeparator line tokens) :
    parseControllerCommand line = parseTokens tokens := by
  have hnone : ¬∃ byte ∈ line, ¬Printable byte := fun ⟨byte, hmem, hbyte⟩ => hbyte (hprintable byte hmem)
  rw [parseControllerCommand, if_neg (Nat.not_lt.mpr hshort), if_neg (mt any_unprintable_iff.mp hnone),
    tokenize_of_spells hspelled]
  rfl

/-! ### Commands of tokens -/

theorem parseTokens_set (arguments : List Bytes) :
    parseTokens (ascii "set" :: arguments) = parseSetCommand (ascii "set" :: arguments) := by
  rw [parseTokens, if_pos rfl]

theorem parseTokens_reset (arguments : List Bytes) :
    parseTokens (ascii "reset" :: arguments) = parseResetCommand (ascii "reset" :: arguments) := by
  rw [parseTokens, if_neg (by decide), if_pos rfl]

theorem parseTokens_plain {name : Bytes} {command : ControllerCommand} (h : (name, command) ∈ plainCommands)
    (arguments : List Bytes) :
    parseTokens (name :: arguments) = if arguments = [] then .command command else .error .wrongArgumentCount := by
  simp only [plainCommands, List.mem_cons, Prod.mk.injEq, List.not_mem_nil, or_false] at h
  unfold parseTokens
  dsimp only
  rcases h with ⟨rfl, rfl⟩ | ⟨rfl, rfl⟩ | ⟨rfl, rfl⟩ | ⟨rfl, rfl⟩
  · rw [if_neg (by decide), if_neg (by decide), if_pos rfl]
  · rw [if_neg (by decide), if_neg (by decide), if_neg (by decide), if_pos rfl]
  · rw [if_neg (by decide), if_neg (by decide), if_neg (by decide), if_neg (by decide),
      if_pos rfl]
  · rw [if_neg (by decide), if_neg (by decide), if_neg (by decide), if_neg (by decide),
      if_neg (by decide), if_pos rfl]

theorem parseTokens_unknown {name : Bytes} (h : ∀ counts, (name, counts) ∉ commandForms) (arguments : List Bytes) :
    parseTokens (name :: arguments) = .error .unknownCommand := by
  simp only [commandForms, List.mem_cons, Prod.mk.injEq, List.not_mem_nil, or_false, not_or, not_and] at h
  have hfree : ∀ {text : Bytes} {expected : List Nat}, (name = text → ¬expected = expected) → ¬name = text :=
    fun hname heq => hname heq rfl
  unfold parseTokens
  dsimp only
  rw [if_neg (hfree (h [3, 4]).2.2.1), if_neg (hfree (h [2]).2.2.2.1), if_neg (hfree (h [0]).1),
    if_neg (hfree (h [0]).2.1), if_neg (hfree (h [0]).2.2.2.2.1), if_neg (hfree (h [0]).2.2.2.2.2)]

omit [DecimalText] in
/-- A name is that of a command, with its arguments, or unknown. -/
theorem name_cases (name : Bytes) :
    name = ascii "set" ∨ name = ascii "reset" ∨ (∃ command, (name, command) ∈ plainCommands) ∨
      ∀ counts, (name, counts) ∉ commandForms := by
  by_cases hform : ∃ counts, (name, counts) ∈ commandForms
  · obtain ⟨counts, hmem⟩ := hform
    simp only [commandForms, List.mem_cons, Prod.mk.injEq, List.not_mem_nil, or_false] at hmem
    rcases hmem with ⟨rfl, -⟩ | ⟨rfl, -⟩ | ⟨rfl, -⟩ | ⟨rfl, -⟩ | ⟨rfl, -⟩ | ⟨rfl, -⟩
    · exact .inr (.inr (.inl ⟨.help, by simp [plainCommands]⟩))
    · exact .inr (.inr (.inl ⟨.status, by simp [plainCommands]⟩))
    · exact .inl rfl
    · exact .inr (.inl rfl)
    · exact .inr (.inr (.inl ⟨.stop, by simp [plainCommands]⟩))
    · exact .inr (.inr (.inl ⟨.detach, by simp [plainCommands]⟩))
  · exact .inr (.inr (.inr (not_exists.mp hform)))

theorem parseSetCommand_eq (name directionName settingName token : Bytes) (more : List Bytes) :
    parseSetCommand (name :: directionName :: settingName :: token :: more) =
      if 1 < more.length then .error .wrongArgumentCount
      else
        match Controller.parseDirection directionName with
        | none => .error .invalidDirection
        | some direction =>
            match Controller.parseSetting settingName with
            | none => .error .invalidSetting
            | some setting => parseValue direction setting (numberAndUnit token more) := rfl

/-- The arguments of `set` are too few or too many, or a direction, a setting and a value. -/
theorem parseSetCommand_arguments (name : Bytes) (arguments : List Bytes) :
    (arguments.length ∉ [3, 4] ∧ parseSetCommand (name :: arguments) = .error .wrongArgumentCount) ∨
    ∃ directionName settingName token more, arguments = directionName :: settingName :: token :: more ∧
      more.length ≤ 1 := by
  match arguments with
  | [] => exact .inl ⟨by decide, rfl⟩
  | [_] => exact .inl ⟨by simp, rfl⟩
  | [_, _] => exact .inl ⟨by simp, rfl⟩
  | directionName :: settingName :: token :: more =>
      by_cases hmany : 1 < more.length
      · refine .inl ⟨?_, (parseSetCommand_eq _ _ _ _ _).trans (if_pos hmany)⟩
        simp only [List.length_cons, List.mem_cons, List.not_mem_nil, or_false, not_or]
        omega
      · exact .inr ⟨directionName, settingName, token, more, rfl, Nat.le_of_not_lt hmany⟩

omit [DecimalText] in
theorem parseResetCommand_arguments (name : Bytes) (arguments : List Bytes) :
    (arguments.length ∉ [2] ∧ parseResetCommand (name :: arguments) = .error .wrongArgumentCount) ∨
    ∃ directionName settingName, arguments = [directionName, settingName] := by
  match arguments with
  | [] => exact .inl ⟨by decide, rfl⟩
  | [_] => exact .inl ⟨by simp, rfl⟩
  | [directionName, settingName] => exact .inr ⟨directionName, settingName, rfl⟩
  | _ :: _ :: _ :: _ => exact .inl ⟨by simp, rfl⟩

/-- The parser of tokens yields the command that they are, or a rule that they break. -/
theorem parseTokens_outcome (hrounds : RoundsCorrectly) (tokens : List Bytes) :
    (∃ command, parseTokens tokens = .command command ∧ Command tokens command) ∨
    ∃ cause, parseTokens tokens = cause.result ∧ Breaks tokens cause := by
  cases tokens with
  | nil => exact .inr ⟨.empty, rfl, .empty⟩
  | cons name arguments =>
      rcases name_cases name with rfl | rfl | ⟨command, hplain⟩ | hunknown
      · rw [parseTokens_set]
        rcases parseSetCommand_arguments (ascii "set") arguments with
          ⟨hlength, hwrong⟩ | ⟨directionName, settingName, token, more, rfl, hmore⟩
        · exact .inr ⟨.error .wrongArgumentCount, hwrong, .wrongArgumentCount (by simp [commandForms]) hlength⟩
        rw [parseSetCommand_eq, if_neg (Nat.not_lt.mpr hmore)]
        cases hdirection : Controller.parseDirection directionName with
        | none => exact .inr ⟨_, rfl, .invalidDirection (.inl rfl) (parseDirection_none.mp hdirection)⟩
        | some direction =>
            cases hsetting : Controller.parseSetting settingName with
            | none => exact .inr ⟨_, rfl, .invalidSetting (.inl rfl) (parseSetting_none.mp hsetting)⟩
            | some setting =>
                have hvalue : Value (token :: more) (numberAndUnit token more) := value_iff.mpr ⟨hmore, rfl⟩
                have hknown := parseSetting_iff.mp hsetting
                rcases parseValue_outcome hrounds direction setting (numberAndUnit token more) with
                  ⟨change, hparse, hdenotes⟩ | ⟨error, hparse, hbreaks⟩
                · exact .inl ⟨_, hparse, .set (parseDirection_iff.mp hdirection) hknown hvalue hdenotes⟩
                · exact .inr ⟨.error error, hparse, .invalidValue hknown hvalue hbreaks⟩
      · rw [parseTokens_reset]
        rcases parseResetCommand_arguments (ascii "reset") arguments with
          ⟨hlength, hwrong⟩ | ⟨directionName, settingName, rfl⟩
        · exact .inr ⟨.error .wrongArgumentCount, hwrong, .wrongArgumentCount (by simp [commandForms]) hlength⟩
        rw [parseResetCommand]
        cases hdirection : Controller.parseDirection directionName with
        | none => exact .inr ⟨_, rfl, .invalidDirection (.inr rfl) (parseDirection_none.mp hdirection)⟩
        | some direction =>
            cases hsetting : Controller.parseSetting settingName with
            | none => exact .inr ⟨_, rfl, .invalidSetting (.inr rfl) (parseSetting_none.mp hsetting)⟩
            | some setting =>
                exact .inl ⟨_, rfl, .reset (parseDirection_iff.mp hdirection) (parseSetting_iff.mp hsetting)⟩
      · rw [parseTokens_plain hplain]
        by_cases hnone : arguments = []
        · rw [hnone]
          exact .inl ⟨command, if_pos rfl, .plain hplain⟩
        · rw [if_neg hnone]
          have hform : (name, [0]) ∈ commandForms := by
            simp only [plainCommands, List.mem_cons, Prod.mk.injEq, List.not_mem_nil, or_false] at hplain
            rcases hplain with ⟨rfl, -⟩ | ⟨rfl, -⟩ | ⟨rfl, -⟩ | ⟨rfl, -⟩ <;> simp [commandForms]
          exact .inr ⟨_, rfl, .wrongArgumentCount hform (by simpa using hnone)⟩
      · exact .inr ⟨.error .unknownCommand, parseTokens_unknown hunknown arguments, .unknownCommand hunknown⟩

/-- The command that tokens are is what the parser yields. -/
theorem parseTokens_of_command (hrounds : RoundsCorrectly) {command : ControllerCommand} (h : Command tokens command) :
    parseTokens tokens = .command command := by
  cases h with
  | plain hplain => rw [parseTokens_plain hplain, if_pos rfl]
  | reset hdirection hsetting =>
      rw [parseTokens_reset, parseResetCommand, parseDirection_iff.mpr hdirection, parseSetting_iff.mpr hsetting]
  | @set directionName settingName direction setting values value change hdirection hsetting hvalue hchange =>
      cases values with
      | nil => exact nomatch hvalue
      | cons token more =>
          obtain ⟨hmore, rfl⟩ := value_iff.mp hvalue
          rw [parseTokens_set, parseSetCommand_eq, if_neg (Nat.not_lt.mpr hmore), parseDirection_iff.mpr hdirection,
            parseSetting_iff.mpr hsetting]
          exact parseValue_of_denotes hrounds hchange

/-- No rule that the tokens break is reported in place of one that comes before it. -/
theorem parseTokens_highest (hrounds : RoundsCorrectly) {cause : Cause} (h : Breaks tokens cause) :
    ReportsWithin (parseTokens tokens) cause := by
  cases h with
  | empty => exact ⟨.empty, rfl, le_rfl⟩
  | unknownCommand hunknown => exact ⟨.error .unknownCommand, parseTokens_unknown hunknown _, le_rfl⟩
  | @wrongArgumentCount name arguments counts hname hlength =>
      refine ⟨.error .wrongArgumentCount, ?_, le_rfl⟩
      simp only [commandForms, List.mem_cons, Prod.mk.injEq, List.not_mem_nil, or_false] at hname
      have hplain : ∀ {command : ControllerCommand}, (name, command) ∈ plainCommands → counts = [0] →
          parseTokens (name :: arguments) = .error .wrongArgumentCount := by
        rintro command hcommand rfl
        rw [parseTokens_plain hcommand, if_neg (by simpa using hlength)]
      rcases hname with ⟨rfl, hcounts⟩ | ⟨rfl, hcounts⟩ | ⟨rfl, rfl⟩ | ⟨rfl, rfl⟩ | ⟨rfl, hcounts⟩ | ⟨rfl, hcounts⟩
      · exact hplain (show (ascii "help", ControllerCommand.help) ∈ plainCommands by simp [plainCommands]) hcounts
      · exact hplain (show (ascii "status", ControllerCommand.status) ∈ plainCommands by simp [plainCommands]) hcounts
      · rw [parseTokens_set]
        rcases parseSetCommand_arguments (ascii "set") arguments with ⟨-, hwrong⟩ | ⟨_, _, _, more, rfl, hmore⟩
        · exact hwrong
        · simp only [List.length_cons, List.mem_cons, List.not_mem_nil, or_false, not_or] at hlength
          omega
      · rw [parseTokens_reset]
        rcases parseResetCommand_arguments (ascii "reset") arguments with ⟨-, hwrong⟩ | ⟨_, _, rfl⟩
        · exact hwrong
        · simp at hlength
      · exact hplain (show (ascii "stop", ControllerCommand.stop) ∈ plainCommands by simp [plainCommands]) hcounts
      · exact hplain (show (ascii "detach", ControllerCommand.detach) ∈ plainCommands by simp [plainCommands]) hcounts
  | @invalidDirection name directionName more hname hunknown =>
      rw [← parseDirection_none] at hunknown
      rcases hname with rfl | rfl
      · rw [parseTokens_set]
        rcases parseSetCommand_arguments (ascii "set") (directionName :: more) with
          ⟨-, hwrong⟩ | ⟨_, _, _, more, hcons, hmore⟩
        · exact ⟨.error .wrongArgumentCount, hwrong, by decide⟩
        · cases hcons
          rw [parseSetCommand_eq, if_neg (Nat.not_lt.mpr hmore), hunknown]
          exact ⟨.error .invalidDirection, rfl, le_rfl⟩
      · rw [parseTokens_reset]
        rcases parseResetCommand_arguments (ascii "reset") (directionName :: more) with ⟨-, hwrong⟩ | ⟨_, _, hcons⟩
        · exact ⟨.error .wrongArgumentCount, hwrong, by decide⟩
        · cases hcons
          rw [parseResetCommand, hunknown]
          exact ⟨.error .invalidDirection, rfl, le_rfl⟩
  | @invalidSetting name directionName settingName more hname hunknown =>
      rw [← parseSetting_none] at hunknown
      rcases hname with rfl | rfl
      · rw [parseTokens_set]
        rcases parseSetCommand_arguments (ascii "set") (directionName :: settingName :: more) with
          ⟨-, hwrong⟩ | ⟨_, _, _, more, hcons, hmore⟩
        · exact ⟨.error .wrongArgumentCount, hwrong, by decide⟩
        · cases hcons
          rw [parseSetCommand_eq, if_neg (Nat.not_lt.mpr hmore), hunknown]
          cases Controller.parseDirection directionName with
          | none => exact ⟨.error .invalidDirection, rfl, by decide⟩
          | some direction => exact ⟨.error .invalidSetting, rfl, le_rfl⟩
      · rw [parseTokens_reset]
        rcases parseResetCommand_arguments (ascii "reset") (directionName :: settingName :: more) with
          ⟨-, hwrong⟩ | ⟨_, _, hcons⟩
        · exact ⟨.error .wrongArgumentCount, hwrong, by decide⟩
        · cases hcons
          rw [parseResetCommand, hunknown]
          cases Controller.parseDirection directionName with
          | none => exact ⟨.error .invalidDirection, rfl, by decide⟩
          | some direction => exact ⟨.error .invalidSetting, rfl, le_rfl⟩
  | @invalidValue directionName settingName setting values value error hsetting hvalue hbreaks =>
      cases values with
      | nil => exact nomatch hvalue
      | cons token more =>
          obtain ⟨hmore, rfl⟩ := value_iff.mp hvalue
          rw [parseTokens_set, parseSetCommand_eq, if_neg (Nat.not_lt.mpr hmore), parseSetting_iff.mpr hsetting]
          cases Controller.parseDirection directionName with
          | none =>
              refine ⟨.error .invalidDirection, rfl, ?_⟩
              cases hbreaks <;> decide
          | some direction => exact parseValue_highest hrounds hbreaks direction

/-! ### Lines -/

/-- The parser yields the command that a line is, or a rule that it breaks. -/
theorem parseControllerCommand_outcome (hrounds : RoundsCorrectly) (line : Bytes) :
    (∃ command, parseControllerCommand line = .command command ∧ Line line command) ∨
    ∃ cause, parseControllerCommand line = cause.result ∧ Applies line cause := by
  by_cases hlong : maximumControllerCommandSize < line.length
  · exact .inr ⟨.error .commandTooLong, parseControllerCommand_tooLong hlong, .commandTooLong hlong⟩
  rw [Nat.not_lt] at hlong
  by_cases hbyte : ∃ byte ∈ line, ¬Printable byte
  · refine .inr ⟨.error .invalidCharacter, parseControllerCommand_unprintable hlong hbyte, ?_⟩
    obtain ⟨byte, hmem, hbyte⟩ := hbyte
    exact .invalidCharacter hmem hbyte
  have hprintable : ∀ byte ∈ line, Printable byte := fun byte hmem =>
    not_not.mp fun hunprintable => hbyte ⟨byte, hmem, hunprintable⟩
  have hspelled := spells_tokenize line
  rw [parseControllerCommand_tokens hlong hprintable hspelled]
  rcases parseTokens_outcome hrounds (tokenize line) with ⟨command, hparse, hcommand⟩ | ⟨cause, hparse, hbreaks⟩
  · exact .inl ⟨command, hparse, hlong, hprintable, _, hspelled, hcommand⟩
  · exact .inr ⟨cause, hparse, .tokens hspelled hbreaks⟩

theorem parseControllerCommand_of_line (hrounds : RoundsCorrectly) {command : ControllerCommand}
    (h : Line line command) : parseControllerCommand line = .command command := by
  obtain ⟨tokens, hspelled, hcommand⟩ := h.spelled
  rw [parseControllerCommand_tokens h.short h.printable hspelled]
  exact parseTokens_of_command hrounds hcommand

/-- The rules of the tokens come behind those of the line. -/
theorem parseControllerCommand_highest (hrounds : RoundsCorrectly) {cause : Cause} (h : Applies line cause) :
    ReportsWithin (parseControllerCommand line) cause := by
  by_cases hlong : maximumControllerCommandSize < line.length
  · exact ⟨.error .commandTooLong, parseControllerCommand_tooLong hlong, Nat.zero_le _⟩
  rw [Nat.not_lt] at hlong
  by_cases hbyte : ∃ byte ∈ line, ¬Printable byte
  · refine ⟨.error .invalidCharacter, parseControllerCommand_unprintable hlong hbyte, ?_⟩
    cases h with
    | commandTooLong h => exact absurd h (Nat.not_lt.mpr hlong)
    | invalidCharacter _ _ => exact le_rfl
    | tokens _ hbreaks =>
        cases hbreaks with
        | invalidValue _ _ hvalue => cases hvalue <;> decide
        | _ => decide
  cases h with
  | commandTooLong h => exact absurd h (Nat.not_lt.mpr hlong)
  | invalidCharacter hmem h => exact absurd ⟨_, hmem, h⟩ hbyte
  | tokens hspelled hbreaks =>
      have hprintable : ∀ byte ∈ line, Printable byte := fun byte hmem =>
        not_not.mp fun hunprintable => hbyte ⟨byte, hmem, hunprintable⟩
      rw [parseControllerCommand_tokens hlong hprintable hspelled]
      exact parseTokens_highest hrounds hbreaks

omit [DecimalText] in
/-- Separators are printable, so what is not stands in a token. -/
theorem unprintable_iff (h : Spells isTokenSeparator line tokens) :
    (∃ byte ∈ line, ¬Printable byte) ↔ ∃ token ∈ tokens, ∃ byte ∈ token, ¬Printable byte := by
  have hinner : ∀ byte, ¬Printable byte → isTokenSeparator byte = false := by
    intro byte hbyte
    rw [← Bool.not_eq_true]
    intro hseparator
    rw [isTokenSeparator, Bool.or_eq_true, decide_eq_true_eq, decide_eq_true_eq] at hseparator
    rcases hseparator with rfl | rfl
    · exact hbyte (.inr (by decide))
    · exact hbyte (.inl rfl)
  constructor
  · rintro ⟨byte, hmem, hbyte⟩
    obtain ⟨token, htoken, hmem⟩ := (h.mem_iff (hinner byte hbyte)).mp hmem
    exact ⟨token, htoken, byte, hmem, hbyte⟩
  · rintro ⟨token, htoken, byte, hmem, hbyte⟩
    exact ⟨byte, (h.mem_iff (hinner byte hbyte)).mpr ⟨token, htoken, hmem⟩, hbyte⟩

/-- Two lines within the limit have one result if their tokens do and both or neither hold what is not printable. -/
theorem parseControllerCommand_congr {other : Bytes} {otherTokens : List Bytes}
    (hshort : line.length ≤ maximumControllerCommandSize) (hother : other.length ≤ maximumControllerCommandSize)
    (hspelled : Spells isTokenSeparator line tokens) (hotherSpelled : Spells isTokenSeparator other otherTokens)
    (hbytes : (∃ token ∈ tokens, ∃ byte ∈ token, ¬Printable byte) ↔
      ∃ token ∈ otherTokens, ∃ byte ∈ token, ¬Printable byte)
    (htokens : parseTokens tokens = parseTokens otherTokens) :
    parseControllerCommand line = parseControllerCommand other := by
  rw [← unprintable_iff hspelled, ← unprintable_iff hotherSpelled] at hbytes
  have hprintable : ∀ {line : Bytes}, (¬∃ byte ∈ line, ¬Printable byte) → ∀ byte ∈ line, Printable byte :=
    fun hnone byte hmem => not_not.mp fun hunprintable => hnone ⟨byte, hmem, hunprintable⟩
  by_cases hbyte : ∃ byte ∈ line, ¬Printable byte
  · rw [parseControllerCommand_unprintable hshort hbyte, parseControllerCommand_unprintable hother (hbytes.mp hbyte)]
  · rw [parseControllerCommand_tokens hshort (hprintable hbyte) hspelled,
      parseControllerCommand_tokens hother (hprintable (mt hbytes.mpr hbyte)) hotherSpelled]
    exact htokens

theorem parseTokens_attached (directionName settingName : Bytes) {number unit : Bytes}
    (hnumber : ∀ byte ∈ number, isUnitStart byte = false) (hunit : ∀ byte ∈ unit.head?, isUnitStart byte = true) :
    parseTokens [ascii "set", directionName, settingName, number ++ unit] =
      parseTokens [ascii "set", directionName, settingName, number, unit] := by
  have hattached := (value_iff.mp (Value.attached hnumber hunit)).2
  rw [parseTokens_set, parseTokens_set, parseSetCommand_eq, parseSetCommand_eq, if_neg (by simp), if_neg (by simp),
    hattached]
  rfl

omit [DecimalText] in
theorem precedence_injective {cause other : Cause} (h : cause.precedence = other.precedence) : cause = other := by
  have hall : ∀ cause : Cause, cause ∈ documentedOrder := by
    intro cause
    cases cause with
    | empty => decide
    | error error => cases error <;> decide
  exact (List.idxOf_inj (hall cause)).mp h

omit [DecimalText] in
theorem result_injective {cause other : Cause} (h : cause.result = other.result) : cause = other := by
  cases cause <;> cases other <;> cases h <;> rfl

/-- The parser follows the documented grammar on every line: it takes the lines of the grammar for what they mean, and
reports of the rules that another line breaks the one that the documentation puts first. Neither the separators around
tokens nor a separator in front of a unit make a difference. -/
theorem parseControllerCommand_documented (hrounds : RoundsCorrectly) :
    (∀ line command, parseControllerCommand line = .command command ↔ Line line command) ∧
    (∀ line cause, parseControllerCommand line = Cause.result cause ↔ Decides line cause) ∧
    (∀ line other tokens, line.length ≤ maximumControllerCommandSize → other.length ≤ maximumControllerCommandSize →
      Spells isTokenSeparator line tokens → Spells isTokenSeparator other tokens →
      parseControllerCommand line = parseControllerCommand other) ∧
    (∀ line other directionName settingName number unit, line.length ≤ maximumControllerCommandSize →
      other.length ≤ maximumControllerCommandSize → (∀ byte ∈ number, isUnitStart byte = false) →
      (∀ byte ∈ unit.head?, isUnitStart byte = true) →
      Spells isTokenSeparator line [ascii "set", directionName, settingName, number ++ unit] →
      Spells isTokenSeparator other [ascii "set", directionName, settingName, number, unit] →
      parseControllerCommand line = parseControllerCommand other) := by
  refine ⟨fun line command => ⟨fun h => ?_, parseControllerCommand_of_line hrounds⟩, fun line cause => ⟨?_, ?_⟩, ?_, ?_⟩
  · rcases parseControllerCommand_outcome hrounds line with ⟨other, hparse, hline⟩ | ⟨cause, hparse, -⟩
    · cases h.symm.trans hparse
      exact hline
    · cases cause <;> cases h.symm.trans hparse
  · intro h
    rcases parseControllerCommand_outcome hrounds line with ⟨command, hparse, -⟩ | ⟨other, hparse, happlies⟩
    · cases cause <;> cases h.symm.trans hparse
    · obtain rfl := result_injective (h.symm.trans hparse)
      refine ⟨happlies, fun other hother => ?_⟩
      obtain ⟨top, htop, hle⟩ := parseControllerCommand_highest hrounds hother
      rwa [result_injective (h.symm.trans htop)]
  · rintro ⟨happlies, hhighest⟩
    obtain ⟨top, hparse, hle⟩ := parseControllerCommand_highest hrounds happlies
    rcases parseControllerCommand_outcome hrounds line with ⟨command, hother, -⟩ | ⟨other, hother, htop⟩
    · cases top <;> cases hparse.symm.trans hother
    · obtain rfl := result_injective (hparse.symm.trans hother)
      rw [hparse, precedence_injective (le_antisymm hle (hhighest top htop))]
  · intro line other tokens hline hother hspelled hotherSpelled
    exact parseControllerCommand_congr hline hother hspelled hotherSpelled Iff.rfl rfl
  · intro line other directionName settingName number unit hline hother hnumber hunit hspelled hotherSpelled
    refine parseControllerCommand_congr hline hother hspelled hotherSpelled ?_
      (parseTokens_attached directionName settingName hnumber hunit)
    simp only [List.mem_cons, List.not_mem_nil, or_false, exists_eq_left, List.mem_append, or_and_right, exists_or]

end

/-- A loss with its unit attached, and a delay with and without a separator in front of its unit. -/
theorem parseControllerCommand_documented_seconds :
    @parseControllerCommand roundedText (ascii "set outbound loss 25.5%") =
      .command (.profileChange (.setPacketLoss .outbound ⟨0x4039800000000000⟩)) ∧
    @parseControllerCommand roundedText (ascii "set inbound delay 1s") =
      @parseControllerCommand roundedText (ascii " set inbound  delay 1 s") := by
  obtain ⟨hcommands, -, -, hattached⟩ := @parseControllerCommand_documented roundedText roundsCorrectly_roundedText
  have hspells : ∀ (line : Bytes) (tokens : List Bytes), tokenize line = tokens → Spells isTokenSeparator line tokens :=
    fun line tokens h => h ▸ spells_tokenize line
  have hnearest : nearestDouble (ascii "25") (ascii "5") = ⟨0x4039800000000000⟩ := by decide +kernel
  have hnumeral : Numeral (ascii "25.5") (ascii "25") (ascii "5") :=
    ⟨by decide, by decide, by decide, by decide⟩
  have hchange : Denotes .outbound ⟨ascii "25.5", ascii "%"⟩ .packetLoss (.setPacketLoss .outbound ⟨0x4039800000000000⟩) :=
    hnearest ▸ Denotes.packetLoss hnumeral (List.mem_cons_of_mem _ List.mem_cons_self) (by decide)
      (by decide +kernel)
  constructor
  · refine (hcommands _ _).mpr ⟨by decide, by decide, _, hspells _
      [ascii "set", ascii "outbound", ascii "loss", ascii "25.5" ++ ascii "%"] (by decide), ?_⟩
    exact .set (by simp [directionNames]) (by simp [settingNames])
      (.attached (by decide) (by decide)) hchange
  · exact hattached _ _ (ascii "inbound") (ascii "delay") (ascii "1") (ascii "s") (by decide) (by decide)
      (by decide) (by decide) (hspells _ _ (by decide)) (hspells _ _ (by decide))

end ControllerGrammar

end NetLagLab
