import Mathlib.Data.List.DropRight

/-! The language in which a caller is answered (`services/media/src/lang_policy.rs`). -/

set_option autoImplicit false

namespace Blazil.Media

abbrev Text := List Char

/-- What the standard library knows of characters. -/
structure Unicode where
  isWhitespace : Char → Bool
  toLowercase : Text → Text

def Unicode.trim (unicode : Unicode) (text : Text) : Text :=
  (text.dropWhile unicode.isWhitespace).rdropWhile unicode.isWhitespace

def switchStreak : Nat := 2

def strongMinWords : Nat := 3

def strongMinChars : Nat := 12

def isStrongEvidence (unicode : Unicode) (text : Text) : Bool :=
  let trimmed := unicode.trim text
  ((trimmed.splitOnP unicode.isWhitespace).filter (· ≠ [])).length ≥ strongMinWords || trimmed.length ≥ strongMinChars

def normalize (unicode : Unicode) (code : Text) : Text :=
  unicode.toLowercase ((unicode.trim code).takeWhile fun char => char ≠ '-' && char ≠ '_')

structure Decision where
  answerLanguage : Option Text
  changed : Bool

structure LanguagePolicy where
  defaultLanguage : Option Text
  followCaller : Bool
  current : Option Text
  streakLanguage : Option Text
  streak : Nat

def LanguagePolicy.new (defaultLanguage : Option Text) (followCaller : Bool) : LanguagePolicy :=
  ⟨defaultLanguage, followCaller, defaultLanguage, none, 0⟩

structure Observation where
  detected : Option Text
  text : Text

def Observation.language (unicode : Unicode) (observation : Observation) : Option Text :=
  (observation.detected.map (normalize unicode)).filter (· ≠ [])

namespace LanguagePolicy

def unchanged (policy : LanguagePolicy) : LanguagePolicy × Decision := (policy, ⟨policy.current, false⟩)

def observe (unicode : Unicode) (policy : LanguagePolicy) (observation : Observation) : LanguagePolicy × Decision :=
  let strong := isStrongEvidence unicode observation.text
  match observation.language unicode with
  | none => policy.unchanged
  | some lang =>
    if !policy.followCaller then policy.unchanged
    else if policy.current = some lang then
      (if strong then { policy with streakLanguage := none, streak := 0 } else policy).unchanged
    else
      let streak := if policy.streakLanguage = some lang then policy.streak + 1 else 1
      if streak ≥ (if strong then 1 else switchStreak) then
        ({ policy with current := some lang, streakLanguage := none, streak := 0 }, ⟨some lang, true⟩)
      else { policy with streakLanguage := some lang, streak := streak }.unchanged

variable (unicode : Unicode)

/-- The policy after the observations so far, of which the last comes first. -/
def after (policy : LanguagePolicy) : List Observation → LanguagePolicy
  | [] => policy
  | observation :: past => ((after policy past).observe unicode observation).1

/-- `lang` was detected since the last switch, and after that neither a third language nor a strong utterance in
the current one. -/
def Pending (policy : LanguagePolicy) : List Observation → Text → Prop
  | [], _ => False
  | observation :: past, lang =>
    ((policy.after unicode past).observe unicode observation).2.changed = false ∧
      (observation.language unicode = some lang ∨ Pending policy past lang ∧
        ∀ other, observation.language unicode = some other → (policy.after unicode past).current = some other ∧
          isStrongEvidence unicode observation.text = false)

variable {unicode} {policy : LanguagePolicy}

theorem after_followCaller (past : List Observation) :
    (policy.after unicode past).followCaller = policy.followCaller := by
  induction past with
  | nil => rfl
  | cons _ _ held =>
    rw [after, ← held]
    unfold observe unchanged
    grind

/-- The streak holds the pending language, and is at most one long between observations. -/
theorem streak_iff (defaultLanguage : Option Text) (past : List Observation) :
    let policy := (new defaultLanguage true).after unicode past
    (policy.streakLanguage.isSome → policy.streak = 1) ∧ ∀ lang, policy.current ≠ some lang →
      (policy.streakLanguage = some lang ↔ Pending unicode (new defaultLanguage true) past lang) := by
  induction past with
  | nil => simp [after, new, Pending]
  | cons _ past held =>
    obtain ⟨_, _⟩ := held
    have follows : ((new defaultLanguage true).after unicode past).followCaller = true := after_followCaller past
    simp only [after, Pending]
    unfold observe unchanged switchStreak
    grind

/-- The answer switches on strong evidence for another language or on a second detection of it, and only then.
It switches to the detected language. -/
theorem observe_changed_iff (defaultLanguage : Option Text) (followCaller : Bool) (past : List Observation)
    (observation : Observation) : let policy := (new defaultLanguage followCaller).after unicode past
    let result := policy.observe unicode observation
    (result.2.changed = true ↔ followCaller = true ∧ ∃ lang, observation.language unicode = some lang ∧
      policy.current ≠ some lang ∧ (isStrongEvidence unicode observation.text = true ∨
        Pending unicode (new defaultLanguage followCaller) past lang)) ∧
    (result.2.changed = true → result.1.current = observation.language unicode ∧
      result.2.answerLanguage = observation.language unicode) ∧
    (result.2.changed = false → result.1.current = policy.current ∧ result.2.answerLanguage = policy.current) := by
  have follows : ((new defaultLanguage followCaller).after unicode past).followCaller = followCaller :=
    after_followCaller past
  refine ⟨?_, fun switched => ?_, fun kept => ?_⟩
  · cases followCaller with
    | false =>
      unfold observe unchanged
      grind
    | true =>
      obtain ⟨_, _⟩ := @streak_iff unicode defaultLanguage past
      unfold observe unchanged switchStreak
      grind
  · unfold observe unchanged at *
    grind
  · unfold observe unchanged at *
    grind

end LanguagePolicy

end Blazil.Media
