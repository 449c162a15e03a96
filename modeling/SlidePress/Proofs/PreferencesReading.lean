import SlidePress.Preferences
import SlidePress.Proofs.TextCharacters
import SlidePress.Proofs.TextLines

/-! Preferences that are read can be used, whatever the variables hold. What is let through is what the
program can work with, and the usual value stands in for all else. -/

namespace SlidePress

namespace Text

/-- What a keyword of a list is: it can be told from the others and from the space around it. -/
structure IsKeyword (text : List Char) : Prop where
  ne_nil : text ≠ []
  uncut : ',' ∉ text
  first : ∀ char ∈ text.head?, isBlank char = false
  last : ∀ char ∈ text.getLast?, isBlank char = false

/-- The first character of a trimmed text can be seen. -/
theorem isBlank_head_trim {text : List Char} (something : trim text ≠ []) :
    isBlank ((trim text).head something) = false := by
  have front : trim text <+: trimLeft text := List.rdropWhile_prefix isBlank (trimLeft text)
  rw [front.head something]
  exact List.head_dropWhile_not isBlank (front.ne_nil something)

private theorem isKeyword_trim {text piece : List Char} (member : piece ∈ pieces ',' text)
    (something : trim piece ≠ []) : IsKeyword (trim piece) where
  ne_nil := something
  uncut := fun inside => notMem_of_mem_pieces member (trim_subset piece inside)
  first := by
    intro char found
    rw [List.head?_eq_some_head something] at found
    obtain rfl := Option.some.inj found
    exact isBlank_head_trim something
  last := by
    intro char found
    rw [List.getLast?_eq_some_getLast something] at found
    obtain rfl := Option.some.inj found
    exact isBlank_getLast_trim something

end Text

private theorem Conversion.isUsableScale_iff (scale : Float32) :
    isUsableScale scale = true ↔ scale.isFinite = true ∧ 0 < scale := by
  rw [isUsableScale, Bool.and_eq_true, decide_eq_true_eq]

namespace Preferences

/-- Preferences that no command has to refuse. -/
structure AreUsable (preferences : Preferences) : Prop where
  timeout : 1 ≤ preferences.timeoutSeconds
  finite : preferences.scale.isFinite = true
  positive : 0 < preferences.scale
  footer : ∀ footer, preferences.footerText = some footer →
    ∃ char ∈ footer.toList, Text.isBlank char = false
  keywords : ∀ keyword ∈ preferences.dividerKeywords, Text.IsKeyword keyword.toList

/-- A value that is read, or the usual one in its place. -/
theorem read_or_usual {α : Type} (good : α → Prop) {read : Option α} {usual : α}
    (reads : ∀ value, read = some value → good value) (stays : good usual) : good (read.getD usual) := by
  cases read with
  | none => exact stays
  | some value => exact reads value rfl

private theorem isKeyword_of_mem_readKeywords {text keyword : String} (member : keyword ∈ readKeywords text) :
    Text.IsKeyword keyword.toList := by
  obtain ⟨letters, kept, rfl⟩ := List.mem_map.mp member
  obtain ⟨trimmed, something⟩ := List.mem_filter.mp kept
  obtain ⟨piece, cut, rfl⟩ := List.mem_map.mp trimmed
  rw [String.toList_ofList]
  apply Text.isKeyword_trim cut
  intro nothing
  rw [nothing] at something
  cases something

/-- The usual keywords could have been read. -/
theorem readKeywords_usual : readKeywords "Key Takeaways,Questions" = ({} : Preferences).dividerKeywords := by
  decide +kernel

private theorem isKeyword_usual : ∀ keyword ∈
    ({} : Preferences).dividerKeywords, Text.IsKeyword keyword.toList := by
  intro keyword member
  rw [← readKeywords_usual] at member
  exact isKeyword_of_mem_readKeywords member

private theorem isUsableScale_usual : Conversion.isUsableScale ({} : Preferences).scale = true := by
  decide +kernel

variable (lookup : String → Option String)

private theorem timeout_ofVariables : 1 ≤ (ofVariables lookup).timeoutSeconds := by
  apply read_or_usual (1 ≤ ·)
  · intro seconds found
    obtain ⟨text, -, reads⟩ := Option.bind_eq_some_iff.mp found
    exact of_decide_eq_true (Option.filter_eq_some_iff.mp reads).2
  · decide

private theorem isUsableScale_ofVariables : Conversion.isUsableScale (ofVariables lookup).scale = true := by
  apply read_or_usual fun scale => Conversion.isUsableScale scale = true
  · intro scale found
    obtain ⟨text, -, reads⟩ := Option.bind_eq_some_iff.mp found
    exact (Option.filter_eq_some_iff.mp reads).2
  · exact isUsableScale_usual

theorem keywords_ofVariables :
    ∀ keyword ∈ (ofVariables lookup).dividerKeywords, Text.IsKeyword keyword.toList := by
  apply read_or_usual fun keywords => ∀ keyword ∈ keywords, Text.IsKeyword (String.toList keyword)
  · intro keywords found keyword member
    obtain ⟨text, -, rfl⟩ := Option.map_eq_some_iff.mp found
    exact isKeyword_of_mem_readKeywords member
  · exact isKeyword_usual

private theorem footer_ofVariables {footer : String} (found : (ofVariables lookup).footerText = some footer) :
    ∃ char ∈ footer.toList, Text.isBlank char = false := by
  have visible := (Option.filter_eq_some_iff.mp found).2
  rw [Text.isBlankString, Text.allBlank, List.not_all_eq_any_not, List.any_eq_true] at visible
  obtain ⟨char, inside, seen⟩ := visible
  exact ⟨char, inside, by simpa using seen⟩

private theorem areUsable_ofVariables : (ofVariables lookup).AreUsable := by
  obtain ⟨finite, positive⟩ := (Conversion.isUsableScale_iff _).mp (isUsableScale_ofVariables lookup)
  constructor
  · exact timeout_ofVariables lookup
  · exact finite
  · exact positive
  · intro footer found
    exact footer_ofVariables lookup found
  · exact keywords_ofVariables lookup

/-- Drawings can be converted at the scale of usable preferences, and with the tool at any size. -/
theorem AreUsable.conversionSettings {preferences : Preferences} (usable : preferences.AreUsable)
    {width height : Nat} (wide : 0 < width) (high : 0 < height) (pattern : String) (folder : Option Path)
    {scale : Option Float32} (own : scale = none ∨ scale = some preferences.scale) :
    ∃ settings, preferences.conversionSettings width height pattern folder scale = .ok settings := by
  have sized : ¬ (width = 0 ∨ height = 0) := by omega
  have fits : Conversion.isUsableScale preferences.scale = true :=
    (Conversion.isUsableScale_iff _).mpr ⟨usable.finite, usable.positive⟩
  rw [Preferences.conversionSettings, if_neg sized]
  rcases own with rfl | rfl
  · exact ⟨_, rfl⟩
  · simp only [Conversion.Backend.ofScale, if_pos fits]
    exact ⟨_, rfl⟩

/-- Whatever the variables hold, the preferences can be used, and no command that asks for pictures with a
size is refused for the sake of them. -/
theorem ofVariables_usable_for_conversions : (ofVariables lookup).AreUsable ∧
    ∀ (width height : Nat) (pattern : String) (folder : Option Path) (scale : Option Float32),
      0 < width → 0 < height → scale = none ∨ scale = some (ofVariables lookup).scale →
      ∃ settings, (ofVariables lookup).conversionSettings width height pattern folder scale = .ok settings := by
  refine ⟨areUsable_ofVariables lookup, ?_⟩
  intro width height pattern folder scale wide high own
  exact (areUsable_ofVariables lookup).conversionSettings wide high pattern folder own

/-- Variables that hold nothing of use, except that a comma can stand at the foot of slides. -/
theorem ofVariables_usable_for_conversions_commas :
    (ofVariables fun _ => some " , ").footerText = some " , " ∧
      (ofVariables fun _ => some " , ").dividerKeywords = [] ∧
      (ofVariables fun _ => some " , ").timeoutSeconds = 30 ∧
      ∃ settings, (ofVariables fun _ => some " , ").conversionSettings 1 1 "*.svg" none
        (some (ofVariables fun _ => some " , ").scale) = .ok settings :=
  ⟨by decide +kernel, by decide +kernel, by decide +kernel,
    (ofVariables_usable_for_conversions fun _ => some " , ").2 1 1 "*.svg" none _ Nat.one_pos Nat.one_pos (.inr rfl)⟩

end Preferences

end SlidePress
