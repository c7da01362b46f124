-- SUMMARY: Which settings an environment stands for, and which values of its variables are refused, with what reason.
import HostBoundary.Settings

/-!
# Settings of an environment

Three variables count. Only the verbosity can be refused: it is a numeral of at most two, or blank, and the
reason tells what comes first from left to right. A character that is no digit comes first if the digits before
it are a number of eight bits; digits that are none come first otherwise, whatever is behind them. Only a
numeral of eight bits can be out of range.
-/

namespace HostBoundary

namespace Verbosity

/-! ## Numerals -/

/-- Characters behind at most one plus sign. -/
def withoutSign : List Char → List Char
  | '+' :: rest => rest
  | cs => cs

/-- One decimal digit or more, with or without a plus sign in front, and the number they denote. -/
inductive Numeral : List Char → Nat → Prop where
  | plain (digits : List Char) (hne : digits ≠ []) (hdigits : ∀ d ∈ digits, d.isDigit) :
      Numeral digits (Decimal.ofDigits digits)
  | signed (digits : List Char) (hne : digits ≠ []) (hdigits : ∀ d ∈ digits, d.isDigit) :
      Numeral ('+' :: digits) (Decimal.ofDigits digits)

theorem withoutSign_of_ne {cs : List Char} (h : cs.head? ≠ some '+') : withoutSign cs = cs := by
  unfold withoutSign
  split
  · exact absurd rfl h
  · rfl

theorem eq_of_withoutSign_eq_nil {cs : List Char} (hne : cs ≠ []) (h : withoutSign cs = []) :
    cs = ['+'] := by
  unfold withoutSign at h
  split at h
  · rw [h]
  · exact absurd h hne

/-- A numeral is made of the digits behind its sign. -/
theorem numeral_iff {cs : List Char} {n : Nat} :
    Numeral cs n ↔ withoutSign cs ≠ [] ∧ (∀ d ∈ withoutSign cs, d.isDigit) ∧
      Decimal.ofDigits (withoutSign cs) = n := by
  constructor
  · intro h
    cases h with
    | plain _ hne hdigits =>
      have hsign : cs.head? ≠ some '+' :=
        fun hsign => absurd (hdigits '+' (List.mem_of_mem_head? hsign)) (by decide)
      rw [withoutSign_of_ne hsign]
      exact ⟨hne, hdigits, rfl⟩
    | signed digits hne hdigits => exact ⟨hne, hdigits, rfl⟩
  · rintro ⟨hne, hdigits, rfl⟩
    by_cases hsign : cs.head? = some '+'
    · obtain ⟨rest, rfl⟩ := List.head?_eq_some_iff.mp hsign
      exact .signed rest hne hdigits
    · rw [withoutSign_of_ne hsign] at hne hdigits ⊢
      exact .plain cs hne hdigits

/-! ## What is accepted and what is refused -/

/-- The verbosity that the characters between blanks stand for. -/
inductive Accepted : List Char → Nat → Prop where
  | blank : Accepted [] 0
  | numeral {cs : List Char} {n : Nat} (h : Numeral cs n) (hmost : n ≤ 2) : Accepted cs n

/-- Why the characters between blanks stand for no verbosity. -/
inductive Refused : List Char → String → Prop where
  | loneSign : Refused ['+'] "invalid digit found in string"
  /-- Digits that denote a number of eight bits, or none at all, and then a character that is no digit. -/
  | strayCharacter {cs : List Char} (digits : List Char) (c : Char) (rest : List Char)
      (heq : withoutSign cs = digits ++ c :: rest) (hdigits : ∀ d ∈ digits, d.isDigit)
      (hword : Decimal.ofDigits digits ≤ 255) (hstray : ¬ c.isDigit) :
      Refused cs "invalid digit found in string"
  /-- Digits that denote a greater number, whatever is behind them. -/
  | tooLarge {cs : List Char} (digits rest : List Char) (heq : withoutSign cs = digits ++ rest)
      (hdigits : ∀ d ∈ digits, d.isDigit) (hword : 255 < Decimal.ofDigits digits) :
      Refused cs "number too large to fit in target type"
  | outOfRange {cs : List Char} {n : Nat} (h : Numeral cs n) (hmost : 2 < n) (hword : n ≤ 255) :
      Refused cs "expected a level between 0 and 2"

/-- Nothing is neither accepted nor refused: the digits in front decide, and what is behind them. -/
theorem accepted_or_refused (cs : List Char) :
    (∃ n, Accepted cs n) ∨ ∃ reason, Refused cs reason := by
  by_cases hblank : cs = []
  · exact .inl ⟨0, hblank ▸ .blank⟩
  -- Whether the longest run of digits in front has eight bits tells if what stops it is reached at all.
  have heq := (List.takeWhile_append_dropWhile (p := Char.isDigit) (l := withoutSign cs)).symm
  have hdigits : ∀ d ∈ (withoutSign cs).takeWhile Char.isDigit, d.isDigit :=
    List.all_eq_true.mp List.all_takeWhile
  by_cases hword : Decimal.ofDigits ((withoutSign cs).takeWhile Char.isDigit) ≤ 255
  · have hbehind := List.head?_dropWhile_not Char.isDigit (withoutSign cs)
    cases hrest : (withoutSign cs).dropWhile Char.isDigit with
    | cons c rest =>
      rw [hrest] at heq hbehind
      have hstray : ¬ c.isDigit := by simpa using hbehind
      exact .inr ⟨_, .strayCharacter _ c rest heq hdigits hword hstray⟩
    | nil =>
      rw [hrest, List.append_nil] at heq
      rw [← heq] at hdigits hword
      by_cases hne : withoutSign cs = []
      · rw [eq_of_withoutSign_eq_nil hblank hne]
        exact .inr ⟨_, .loneSign⟩
      · have h : Numeral cs _ := numeral_iff.mpr ⟨hne, hdigits, rfl⟩
        by_cases hmost : Decimal.ofDigits (withoutSign cs) ≤ 2
        · exact .inl ⟨_, .numeral h hmost⟩
        · exact .inr ⟨_, .outOfRange h (Nat.lt_of_not_le hmost) hword⟩
  · exact .inr ⟨_, .tooLarge _ _ heq hdigits (Nat.lt_of_not_le hword)⟩

/-! ## Reading digits -/

/-- Digits behind a number make it no smaller. -/
theorem le_ofDigitChars (digits : List Char) (n : Nat) : n ≤ Nat.ofDigitChars 10 digits n := by
  rw [Nat.ofDigitChars_eq_ofDigitChars_zero]
  have hpos : 0 < 10 ^ digits.length := Nat.pow_pos (by decide)
  exact Nat.le_add_right_of_le (Nat.le_mul_of_pos_left n hpos)

theorem ofDigitChars_cons_eq (d : Char) (digits : List Char) (n : Nat) :
    Nat.ofDigitChars 10 (d :: digits) n =
      Nat.ofDigitChars 10 digits (n * 10 + Decimal.digitValue d) := by
  rw [Nat.ofDigitChars_cons, Nat.mul_comm]
  rfl

/-- Digits are read as one goes, as long as the number has eight bits. -/
theorem readDigits_append {digits : List Char} {n : Nat} (hdigits : ∀ d ∈ digits, d.isDigit)
    (hword : Nat.ofDigitChars 10 digits n ≤ 255) (rest : List Char) :
    readDigits n (digits ++ rest) = readDigits (Nat.ofDigitChars 10 digits n) rest := by
  induction digits generalizing n with
  | nil => rfl
  | cons d digits ih =>
    rw [ofDigitChars_cons_eq] at hword ⊢
    have hlonger : n * 10 + Decimal.digitValue d ≤ wordMax :=
      Nat.le_trans (le_ofDigitChars digits _) hword
    rw [List.cons_append, readDigits, if_pos (hdigits d List.mem_cons_self)]
    simp only [hlonger, if_true]
    exact ih (fun c hc => hdigits c (List.mem_cons_of_mem _ hc)) hword

/-- Reading ends where the number no longer has eight bits. -/
theorem readDigits_tooLarge {digits : List Char} {n : Nat} (hdigits : ∀ d ∈ digits, d.isDigit)
    (hn : n ≤ 255) (hword : 255 < Nat.ofDigitChars 10 digits n) (rest : List Char) :
    readDigits n (digits ++ rest) = .error .tooLarge := by
  induction digits generalizing n with
  | nil => exact absurd hn (Nat.not_le.mpr hword)
  | cons d digits ih =>
    rw [ofDigitChars_cons_eq] at hword
    rw [List.cons_append, readDigits, if_pos (hdigits d List.mem_cons_self)]
    by_cases hlonger : n * 10 + Decimal.digitValue d ≤ wordMax
    · simp only [hlonger, if_true]
      exact ih (fun c hc => hdigits c (List.mem_cons_of_mem _ hc)) hlonger hword
    · simp only [hlonger, if_false]

theorem readDigits_stray {c : Char} (hc : ¬ c.isDigit) (n : Nat) (rest : List Char) :
    readDigits n (c :: rest) = .error .invalidDigit := by
  rw [readDigits, if_neg hc]

theorem readWord_eq {cs : List Char} (hne : withoutSign cs ≠ []) :
    readWord cs = readDigits 0 (withoutSign cs) := by
  unfold readWord
  split
  · exact absurd rfl hne
  · exact absurd rfl hne
  · rfl
  · next hsign =>
    rw [withoutSign_of_ne]
    intro hhead
    obtain ⟨rest, rfl⟩ := List.head?_eq_some_iff.mp hhead
    exact hsign rest rfl

theorem readWord_of_numeral {cs : List Char} {n : Nat} (h : Numeral cs n) (hword : n ≤ 255) :
    readWord cs = .ok n := by
  obtain ⟨hne, hdigits, rfl⟩ := numeral_iff.mp h
  have hread := readDigits_append hdigits hword []
  rw [List.append_nil] at hread
  rw [readWord_eq hne, hread]
  rfl

/-! ## Reading a verbosity -/

/-- How the characters between blanks are read. -/
def readTrimmed : List Char → Except VerbosityFault Nat
  | [] => .ok 0
  | cs => do
    let n ← readWord cs
    if n ≤ most then .ok n else .error .outOfRange

theorem read_eq (raw : String) : read raw = readTrimmed (Blank.trim raw.toList) := rfl

theorem readTrimmed_of_readWord_eq_ok {cs : List Char} {n : Nat} (h : readWord cs = .ok n) :
    readTrimmed cs = if n ≤ most then .ok n else .error .outOfRange := by
  cases cs with
  | nil => cases h
  | cons c cs =>
    rw [readTrimmed, h]
    · rfl
    · exact List.cons_ne_nil c cs

theorem readTrimmed_of_readWord_eq_error {cs : List Char} {fault : VerbosityFault} (hne : cs ≠ [])
    (h : readWord cs = .error fault) : readTrimmed cs = .error fault := by
  rw [readTrimmed, h]
  · rfl
  · exact hne

theorem ne_nil_of_withoutSign {cs : List Char} (h : withoutSign cs ≠ []) : cs ≠ [] := by
  rintro rfl
  exact h rfl

theorem readTrimmed_of_accepted {cs : List Char} {n : Nat} (h : Accepted cs n) :
    readTrimmed cs = .ok n := by
  cases h with
  | blank => rfl
  | numeral h hmost =>
    have hword := readWord_of_numeral h (Nat.le_trans hmost (by decide))
    rw [readTrimmed_of_readWord_eq_ok hword]
    exact if_pos hmost

theorem readTrimmed_of_refused {cs : List Char} {text : String} (h : Refused cs text) :
    ∃ fault, readTrimmed cs = .error fault ∧ reason fault = text := by
  cases h with
  | loneSign => exact ⟨.invalidDigit, rfl, rfl⟩
  | strayCharacter digits c rest heq hdigits hword hstray =>
    have hne : withoutSign cs ≠ [] := by simp [heq]
    refine ⟨.invalidDigit, readTrimmed_of_readWord_eq_error (ne_nil_of_withoutSign hne) ?_, rfl⟩
    rw [readWord_eq hne, heq, readDigits_append hdigits hword, readDigits_stray hstray]
  | tooLarge digits rest heq hdigits hword =>
    have hne : withoutSign cs ≠ [] := by
      intro hnil
      obtain ⟨rfl, -⟩ := List.append_eq_nil_iff.mp (heq.symm.trans hnil)
      exact absurd hword (by decide)
    refine ⟨.tooLarge, readTrimmed_of_readWord_eq_error (ne_nil_of_withoutSign hne) ?_, rfl⟩
    rw [readWord_eq hne, heq, readDigits_tooLarge hdigits (by decide) hword]
  | outOfRange h hmost hword =>
    refine ⟨.outOfRange, ?_, rfl⟩
    rw [readTrimmed_of_readWord_eq_ok (readWord_of_numeral h hword)]
    exact if_neg (Nat.not_le.mpr hmost)

/-- Nothing is both accepted and refused. -/
theorem not_accepted_of_refused {cs : List Char} {n : Nat} {text : String} (h : Refused cs text) :
    ¬ Accepted cs n := by
  intro haccepted
  obtain ⟨fault, hfault, -⟩ := readTrimmed_of_refused h
  rw [readTrimmed_of_accepted haccepted] at hfault
  cases hfault

theorem exists_refused_iff {cs : List Char} :
    (∃ text, Refused cs text) ↔ cs ≠ [] ∧ ¬ ∃ n ≤ 2, Numeral cs n := by
  constructor
  · rintro ⟨text, h⟩
    refine ⟨?_, ?_⟩
    · rintro rfl
      exact not_accepted_of_refused h .blank
    · rintro ⟨n, hmost, hn⟩
      exact not_accepted_of_refused h (.numeral hn hmost)
  · rintro ⟨hne, hnone⟩
    refine (accepted_or_refused cs).resolve_left ?_
    rintro ⟨n, h⟩
    cases h with
    | blank => exact hne rfl
    | numeral h hmost => exact hnone ⟨n, hmost, h⟩

/-- What is read, is accepted; what is not, is refused for the fault at which reading ends. -/
theorem read_cases (raw : String) :
    (∃ n, Accepted (Blank.trim raw.toList) n ∧ read raw = .ok n) ∨
      ∃ fault, Refused (Blank.trim raw.toList) (reason fault) ∧ read raw = .error fault := by
  rw [read_eq]
  obtain ⟨n, h⟩ | ⟨text, h⟩ := accepted_or_refused (Blank.trim raw.toList)
  · exact .inl ⟨n, h, readTrimmed_of_accepted h⟩
  · obtain ⟨fault, hread, rfl⟩ := readTrimmed_of_refused h
    exact .inr ⟨fault, h, hread⟩

theorem read_eq_ok_iff {raw : String} {n : Nat} :
    read raw = .ok n ↔ Accepted (Blank.trim raw.toList) n := by
  refine ⟨fun h => ?_, fun h => (read_eq raw).trans (readTrimmed_of_accepted h)⟩
  obtain ⟨m, haccepted, hread⟩ | ⟨fault, -, hread⟩ := read_cases raw
  · cases h.symm.trans hread
    exact haccepted
  · cases h.symm.trans hread

/-- The fault at which reading ends is the only one that counts. -/
theorem refused_iff_of_read_eq_error {raw text : String} {fault : VerbosityFault}
    (h : read raw = .error fault) : Refused (Blank.trim raw.toList) text ↔ text = reason fault := by
  constructor
  · intro hrefused
    obtain ⟨found, hfound, rfl⟩ := readTrimmed_of_refused hrefused
    rw [read_eq, hfound] at h
    cases h
    rfl
  · rintro rfl
    obtain ⟨n, -, hread⟩ | ⟨found, hrefused, hread⟩ := read_cases raw
    · cases h.symm.trans hread
    · cases h.symm.trans hread
      exact hrefused

/-- Signs and zeros in front, both ends of the eight bits, and which of two faults counts. -/
example :
    [" +002\u00A0", "\t", "++1", "+", "3", "256", "25x", "256x", "25x6"].map (fun raw => read raw) =
      [.ok 2, .ok 0, .error .invalidDigit, .error .invalidDigit, .error .outOfRange, .error .tooLarge,
        .error .invalidDigit, .error .tooLarge, .error .invalidDigit] := rfl

end Verbosity

/-! ## Other settings -/

theorem advisoriesOn_eq_false_iff {value : Option String} :
    advisoriesOn value = false ↔ value = some "false" ∨ value = some "0" := by
  unfold advisoriesOn
  split
  · simp
  · simp
  · next hfalse hzero =>
    constructor
    · intro h
      cases h
    · rintro (h | h)
      · exact absurd h hfalse
      · exact absurd h hzero

namespace Settings

theorem readLogFile_eq_some_iff {raw path : String} :
    readLogFile raw = some path ↔ path ≠ "" ∧ path = String.ofList (Blank.trim raw.toList) := by
  unfold readLogFile
  split
  · next hblank => simp [hblank]
  · next hne =>
    constructor
    · intro h
      cases h
      refine ⟨fun hempty => hne ?_, rfl⟩
      rw [← String.toList_ofList (l := Blank.trim raw.toList), hempty, String.toList_empty]
    · rintro ⟨-, rfl⟩
      rfl

/-! ## All settings -/

variable {env : Environment}

theorem result_load (env : Environment) : (load env).result = ofEnvironment env := by
  unfold load
  split
  · next e hload => exact hload.symm
  · next settings hload => exact hload.symm

/-- A verbosity that is not set is read as an empty one. -/
theorem ofEnvironment_of_read_eq_ok {level : Nat}
    (h : Verbosity.read ((env.get? Environment.verbosityKey).getD "") = .ok level) :
    ofEnvironment env = .ok
      { advisories := advisoriesOn (env.get? Environment.advisoriesKey)
        verbosity := level
        logFile := (env.get? Environment.logFileKey).bind readLogFile } := by
  unfold ofEnvironment
  cases hraw : env.get? Environment.verbosityKey with
  | none =>
    rw [hraw] at h
    cases h
    rfl
  | some raw =>
    rw [hraw, Option.getD_some] at h
    simp only [h]
    rfl

theorem ofEnvironment_of_read_eq_error {raw : String} {fault : VerbosityFault}
    (hraw : env.get? Environment.verbosityKey = some raw) (h : Verbosity.read raw = .error fault) :
    ofEnvironment env = .error
      { key := Environment.verbosityKey, value := raw, reason := Verbosity.reason fault } := by
  unfold ofEnvironment
  simp only [hraw, h]
  rfl

/-- An environment either has a verbosity that is read, or one that is set and at fault. -/
theorem givenVerbosity_cases (env : Environment) :
    (∃ level, Verbosity.read ((env.get? Environment.verbosityKey).getD "") = .ok level) ∨
      ∃ raw fault, env.get? Environment.verbosityKey = some raw ∧ Verbosity.read raw = .error fault := by
  cases hraw : env.get? Environment.verbosityKey with
  | none => exact .inl ⟨0, rfl⟩
  | some raw =>
    cases hread : Verbosity.read raw with
    | ok level => exact .inl ⟨level, hread⟩
    | error fault => exact .inr ⟨raw, fault, rfl, hread⟩

/-- The settings that the variables of an environment stand for. -/
structure ReadFrom (env : Environment) (settings : Settings) : Prop where
  verbosity : Verbosity.Accepted (Blank.trim ((env.get? "PACKHOST_VERBOSE").getD "").toList)
    settings.verbosity
  logFile : ∀ path, settings.logFile = some path ↔
    path ≠ "" ∧ ∃ raw, env.get? "PACKHOST_LOG_FILE" = some raw ∧
      path = String.ofList (Blank.trim raw.toList)
  advisories : settings.advisories = false ↔
    env.get? "PACKHOST_DEP_WARNINGS" = some "false" ∨ env.get? "PACKHOST_DEP_WARNINGS" = some "0"

/-- Why the verbosity of an environment is refused. -/
structure RefusedFrom (env : Environment) (error : InvalidSetting) : Prop where
  key : error.key = "PACKHOST_VERBOSE"
  value : env.get? "PACKHOST_VERBOSE" = some error.value
  reason : Verbosity.Refused (Blank.trim error.value.toList) error.reason

theorem logFile_eq_some_iff {path : String} :
    (env.get? Environment.logFileKey).bind readLogFile = some path ↔
      path ≠ "" ∧ ∃ raw, env.get? "PACKHOST_LOG_FILE" = some raw ∧
        path = String.ofList (Blank.trim raw.toList) := by
  simp only [Option.bind_eq_some_iff, readLogFile_eq_some_iff, Environment.logFileKey]
  constructor
  · rintro ⟨raw, hraw, hne, heq⟩
    exact ⟨hne, raw, hraw, heq⟩
  · rintro ⟨hne, raw, hraw, heq⟩
    exact ⟨raw, hraw, hne, heq⟩

theorem readFrom_iff {settings : Settings} :
    ReadFrom env settings ↔
      Verbosity.read ((env.get? Environment.verbosityKey).getD "") = .ok settings.verbosity ∧
        settings.logFile = (env.get? Environment.logFileKey).bind readLogFile ∧
        settings.advisories = advisoriesOn (env.get? Environment.advisoriesKey) := by
  constructor
  · intro h
    refine ⟨Verbosity.read_eq_ok_iff.mpr h.verbosity, Option.ext fun path => ?_, ?_⟩
    · rw [h.logFile, logFile_eq_some_iff]
    · exact Bool.not_inj (Bool.coe_false_iff_false.mp
        (h.advisories.trans advisoriesOn_eq_false_iff.symm))
  · rintro ⟨hread, hlog, hadvisories⟩
    refine ⟨Verbosity.read_eq_ok_iff.mp hread, fun path => ?_, ?_⟩
    · rw [hlog, logFile_eq_some_iff]
    · rw [hadvisories, advisoriesOn_eq_false_iff]
      rfl

theorem ofEnvironment_eq_ok_iff {settings : Settings} :
    ofEnvironment env = .ok settings ↔ ReadFrom env settings := by
  rw [readFrom_iff]
  obtain ⟨level, hread⟩ | ⟨raw, fault, hraw, hread⟩ := givenVerbosity_cases env
  · rw [ofEnvironment_of_read_eq_ok hread, hread]
    constructor
    · intro h
      cases h
      exact ⟨rfl, rfl, rfl⟩
    · rintro ⟨hlevel, hlog, hadvisories⟩
      cases hlevel
      rw [← hlog, ← hadvisories]
  · rw [ofEnvironment_of_read_eq_error hraw hread, hraw, Option.getD_some, hread]
    simp

theorem ofEnvironment_eq_error_iff {error : InvalidSetting} :
    ofEnvironment env = .error error ↔ RefusedFrom env error := by
  obtain ⟨level, hread⟩ | ⟨raw, fault, hraw, hread⟩ := givenVerbosity_cases env
  · rw [ofEnvironment_of_read_eq_ok hread]
    constructor
    · intro h
      cases h
    · intro h
      have hvalue : (env.get? Environment.verbosityKey).getD "" = error.value := by
        rw [Environment.verbosityKey, h.value, Option.getD_some]
      rw [hvalue] at hread
      exact absurd (Verbosity.read_eq_ok_iff.mp hread) (Verbosity.not_accepted_of_refused h.reason)
  · rw [ofEnvironment_of_read_eq_error hraw hread]
    constructor
    · intro h
      cases h
      exact ⟨rfl, hraw, (Verbosity.refused_iff_of_read_eq_error hread).mpr rfl⟩
    · intro h
      obtain ⟨key, value, reason⟩ := error
      obtain rfl : key = "PACKHOST_VERBOSE" := h.key
      obtain rfl : raw = value := Option.some.inj (hraw.symm.trans h.value)
      obtain rfl : reason = _ := (Verbosity.refused_iff_of_read_eq_error hread).mp h.reason
      rfl

/-- Only the three variables count. -/
theorem ofEnvironment_congr {other : Environment}
    (h : ∀ key ∈ ["PACKHOST_VERBOSE", "PACKHOST_LOG_FILE", "PACKHOST_DEP_WARNINGS"],
      other.get? key = env.get? key) : ofEnvironment other = ofEnvironment env := by
  have hverbosity : other.get? Environment.verbosityKey = env.get? Environment.verbosityKey :=
    h _ (.head _)
  have hlogFile : other.get? Environment.logFileKey = env.get? Environment.logFileKey :=
    h _ (.tail _ (.head _))
  have hadvisories : other.get? Environment.advisoriesKey = env.get? Environment.advisoriesKey :=
    h _ (.tail _ (.tail _ (.head _)))
  rw [ofEnvironment, ofEnvironment, hverbosity, hlogFile, hadvisories]

/-- An environment gives the settings that its variables stand for, or the error that tells why its verbosity
is refused. It is refused if what stands between its blanks is something else than a numeral of at most two.
Another environment in which the three variables are the same gives the same. -/
theorem loaded_iff_readFrom (env : Environment) :
    (∀ settings, (load env).result = .ok settings ↔ ReadFrom env settings) ∧
      (∀ error, (load env).result = .error error ↔ RefusedFrom env error) ∧
      ((∃ error, (load env).result = .error error) ↔
        ∃ raw, env.get? "PACKHOST_VERBOSE" = some raw ∧ Blank.trim raw.toList ≠ [] ∧
          ¬ ∃ n ≤ 2, Verbosity.Numeral (Blank.trim raw.toList) n) ∧
      ∀ other : Environment,
        (∀ key ∈ ["PACKHOST_VERBOSE", "PACKHOST_LOG_FILE", "PACKHOST_DEP_WARNINGS"],
          other.get? key = env.get? key) → (load other).result = (load env).result := by
  simp only [result_load]
  refine ⟨fun _ => ofEnvironment_eq_ok_iff, fun _ => ofEnvironment_eq_error_iff, ?_,
    fun _ => ofEnvironment_congr⟩
  simp only [ofEnvironment_eq_error_iff, ← Verbosity.exists_refused_iff]
  constructor
  · rintro ⟨error, h⟩
    exact ⟨error.value, h.value, error.reason, h.reason⟩
  · rintro ⟨raw, hraw, text, h⟩
    exact ⟨⟨_, raw, text⟩, rfl, hraw, h⟩

end Settings

end HostBoundary
