import Mathlib
import SlidePress.CommandLine.Convert

/-! Where the program itself makes the pictures, their size comes from the drawings and the scale, and the
dimensions make no difference to a drawing or to a command. They make one before that: dimensions without
extent are refused whoever is to make the pictures. -/

namespace SlidePress

namespace Failure

private theorem message_noDimensions (width height : Nat) : (noDimensions width height).message =
    "Configuration error: " ++ "Output dimensions must be positive, got " ++ width.repr ++ "x" ++ height.repr := by
  have front : "Configuration error: Output dimensions must be positive, got " =
    "Configuration error: " ++ "Output dimensions must be positive, got " := by decide
  rw [← front]
  rfl

private theorem message_badScale (scale : Float32) : (badScale scale).message =
    "Configuration error: " ++ "Scale must be a positive number, got " ++ Decimal.float32Text scale := by
  have front : "Configuration error: Scale must be a positive number, got " =
    "Configuration error: " ++ "Scale must be a positive number, got " := by decide
  rw [← front]
  rfl

/-- The pairs of dimensions can be told apart in what is said against them. -/
theorem message_noDimensions_injective {width height width' height' : Nat}
    (same : (noDimensions width height).message = (noDimensions width' height').message) :
    width = width' ∧ height = height' := by
  have uncut (number : Nat) : 'x' ∉ number.repr.toList := by
    intro member
    rw [Nat.toList_repr] at member
    exact absurd (Nat.isDigit_of_mem_toDigits (by decide) (by decide) member) (by decide)
  have letters := congrArg String.toList same
  have cross : "x".toList = ['x'] := by decide
  simp only [message_noDimensions, String.toList_append, List.append_assoc, List.append_cancel_left_eq, cross,
    List.cons_append, List.nil_append, List.append_cons_inj_of_notMem (uncut width) (uncut height)] at letters
  exact ⟨Nat.repr_injective (String.toList_inj.mp letters.1),
    Nat.repr_injective (String.toList_inj.mp letters.2.2)⟩

private theorem message_noDimensions_ne_badScale (width height : Nat) (scale : Float32) :
    (noDimensions width height).message ≠ (badScale scale).message := by
  intro same
  have dimensions : "Output dimensions must be positive, got ".toList =
    'O' :: "utput dimensions must be positive, got ".toList := by decide
  have scaling : "Scale must be a positive number, got ".toList =
    'S' :: "cale must be a positive number, got ".toList := by decide
  have letters := congrArg String.toList same
  simp only [message_noDimensions, message_badScale, String.toList_append, List.append_assoc,
    List.append_cancel_left_eq, dimensions, scaling, List.cons_append] at letters
  exact absurd (List.cons.inj letters).1 (by decide)

end Failure

namespace Conversion

def Settings.sized (settings : Settings) (width height : Nat) : Settings := { settings with width, height }

section BuiltIn

variable (machine : Machine) {settings : Settings} {scale : Float32} (own : settings.backend = .builtIn scale)
  (width height : Nat)

include own

private theorem makePicture_sized (session : Session) (drawing : Path) :
    makePicture machine (settings.sized width height) session drawing =
      makePicture machine settings session drawing := by
  have backend : (settings.sized width height).backend = .builtIn scale := own
  simp only [makePicture, backend, own]

private theorem convert_sized (session : Session) (drawing : Path) :
    convert machine (settings.sized width height) session drawing = convert machine settings session drawing := by
  have reasons (failure : Failure) : reason (settings.sized width height) failure = reason settings failure := by
    cases failure <;> rfl
  simp only [convert, makePicture_sized machine own, reasons]

private theorem convertEach_sized (report : Report) (session : Session) (drawings : List Path) :
    CommandLine.convertEach machine (settings.sized width height) report session drawings =
      CommandLine.convertEach machine settings report session drawings := by
  induction drawings generalizing report session with
  | nil => rfl
  | cons drawing drawings ih =>
    simp only [CommandLine.convertEach, convert_sized machine own, ih]

/-- A command says and does the same for all dimensions. -/
theorem convertWith_sized (session : Session) :
    CommandLine.convertWith machine (settings.sized width height) session =
      CommandLine.convertWith machine settings session := by
  have backend : (settings.sized width height).backend = .builtIn scale := own
  have heading (folder : Path) : CommandLine.convertHeading (settings.sized width height) folder =
      CommandLine.convertHeading settings folder := by
    simp only [CommandLine.convertHeading, backend, own]
    rfl
  have tool (session : Session) : CommandLine.toolLine machine (settings.sized width height) session =
      CommandLine.toolLine machine settings session := by
    simp only [CommandLine.toolLine, backend, own]
  have matching (session : Session) : CommandLine.convertMatching machine (settings.sized width height) session =
      CommandLine.convertMatching machine settings session := by
    simp only [CommandLine.convertMatching, CommandLine.convertFound, convertEach_sized machine own]
    rfl
  simp only [CommandLine.convertWith, heading, tool, matching]
  rfl

end BuiltIn

/-- Whether two ways to convert differ in nothing but dimensions, which make no difference to any drawing and
to what a command says. -/
structure AlikeButSize (first second : Settings) : Prop where
  settings : second = first.sized second.width second.height
  convert : ∀ machine session drawing,
    convert machine first session drawing = convert machine second session drawing
  command : ∀ machine session,
    CommandLine.convertWith machine first session = CommandLine.convertWith machine second session

/-- Whether two commands are refused in the same words, or converted alike. -/
inductive Alike : Except Failure Settings → Except Failure Settings → Prop where
  | refused {failure other : Failure} (same : failure.message = other.message) :
      Alike (.error failure) (.error other)
  | admitted {first second : Settings} (alike : AlikeButSize first second) : Alike (.ok first) (.ok second)

theorem Alike.refl (result : Except Failure Settings) : Alike result result := by
  cases result with
  | error failure => exact .refused rfl
  | ok settings => exact .admitted ⟨rfl, fun _ _ _ => rfl, fun _ _ => rfl⟩

theorem Alike.symm {first second : Except Failure Settings} (alike : Alike first second) :
    Alike second first := by
  cases alike with
  | refused same => exact .refused same.symm
  | admitted alike =>
    refine .admitted ⟨?_, ?_, ?_⟩
    · rw [alike.settings]
      rfl
    · intro machine session drawing
      exact (alike.convert machine session drawing).symm
    · intro machine session
      exact (alike.command machine session).symm

variable {preferences : Preferences} {pattern : String} {folder : Option Path} {scale : Float32}
  {width height width' height' : Nat}

private theorem conversionSettings_of_zero (zero : width = 0 ∨ height = 0) (scale : Option Float32) :
    preferences.conversionSettings width height pattern folder scale = .error (.noDimensions width height) := by
  rw [Preferences.conversionSettings, if_pos zero]

/-- Dimensions with an extent are taken over, and the scale alone decides. -/
theorem conversionSettings_of_pos (sized : ¬ (width = 0 ∨ height = 0)) :
    preferences.conversionSettings width height pattern folder (some scale) =
      if isUsableScale scale then .ok {
        width, height, pattern, folder := folder.getD ⟨"."⟩
        timeoutSeconds := preferences.timeoutSeconds, backend := .builtIn scale }
      else .error (.badScale scale) := by
  rw [Preferences.conversionSettings, if_neg sized, Backend.ofScale]
  by_cases usable : isUsableScale scale = true
  · simp only [if_pos usable]
  · simp only [if_neg usable]

private theorem not_alike_of_zero (zero : width = 0 ∨ height = 0) (sized : ¬ (width' = 0 ∨ height' = 0)) :
    ¬ Alike (preferences.conversionSettings width height pattern folder (some scale))
      (preferences.conversionSettings width' height' pattern folder (some scale)) := by
  rw [conversionSettings_of_zero zero, conversionSettings_of_pos sized]
  intro alike
  split at alike
  · cases alike
  · cases alike with
    | refused same => exact Failure.message_noDimensions_ne_badScale width height scale same

/-- Where the program itself makes the pictures, two pairs of dimensions come to the same exactly if both
have an extent or both are one pair. -/
theorem sizes_alike_iff (preferences : Preferences) (pattern : String) (folder : Option Path) (scale : Float32)
    (width height width' height' : Nat) :
    Alike (preferences.conversionSettings width height pattern folder (some scale))
        (preferences.conversionSettings width' height' pattern folder (some scale)) ↔
      (0 < width ∧ 0 < height) ∧ (0 < width' ∧ 0 < height') ∨ width = width' ∧ height = height' := by
  constructor
  · intro alike
    by_cases zero : width = 0 ∨ height = 0
    · by_cases zero' : width' = 0 ∨ height' = 0
      · rw [conversionSettings_of_zero zero, conversionSettings_of_zero zero'] at alike
        cases alike with
        | refused same => exact .inr (Failure.message_noDimensions_injective same)
      · exact absurd alike (not_alike_of_zero zero zero')
    · by_cases zero' : width' = 0 ∨ height' = 0
      · exact absurd alike.symm (not_alike_of_zero zero' zero)
      · left
        omega
  · rintro (⟨first, second⟩ | ⟨rfl, rfl⟩)
    · rw [conversionSettings_of_pos (by omega), conversionSettings_of_pos (by omega)]
      split
      · refine .admitted ⟨rfl, ?_, ?_⟩
        · intro machine session drawing
          exact (convert_sized machine rfl width' height' session drawing).symm
        · intro machine session
          exact (convertWith_sized machine rfl width' height' session).symm
      · exact .refused rfl
    · exact .refl _

/-- Dimensions without extent are refused even though they would not be used. -/
theorem zero_width_refused : ¬ ∀ (preferences : Preferences) (pattern : String) (folder : Option Path)
    (scale : Float32) (width height width' height' : Nat),
    Alike (preferences.conversionSettings width height pattern folder (some scale))
      (preferences.conversionSettings width' height' pattern folder (some scale)) := by
  intro alike
  exact not_alike_of_zero (.inl rfl) (by decide) (alike {} "*.svg" none 2 0 1 1 1)

end Conversion

end SlidePress
