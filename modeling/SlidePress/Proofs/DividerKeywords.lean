import SlidePress.Proofs.PreferencesReading
import SlidePress.Proofs.TextReplacing

/-! Keywords for dividers. A list of them names a divider if one of its pieces, without the white space around
it, occurs in the title and is not empty; that alone decides over slides that are neither the title slide nor
code. What else a list holds goes when it is read, so that the keywords that are read make the same list. -/

namespace SlidePress

/-- Whether a list with commas has a piece that occurs in the title. A blank piece never counts, though the
empty text occurs everywhere. -/
def Text.NamesDivider (list title : String) : Prop :=
  ∃ piece ∈ list.toList.splitOn ',', trim piece ≠ [] ∧ trim piece <:+: title.toList

instance (list title : String) : Decidable (Text.NamesDivider list title) :=
  inferInstanceAs (Decidable (∃ piece ∈ list.toList.splitOn ',', _))

private theorem Text.not_namesDivider_of_idle {list : String}
    (idle : ∀ char ∈ list.toList, char = ',' ∨ isBlank char = true) (title : String) :
    ¬ NamesDivider list title := by
  rintro ⟨piece, cut, something, -⟩
  apply something
  rw [trim_eq_nil_iff, allBlank, List.all_eq_true]
  rw [← pieces_eq_splitOn] at cut
  intro char inside
  cases idle char (pieces_subset cut inside) with
  | inl comma =>
    subst comma
    exact absurd inside (notMem_of_mem_pieces cut)
  | inr blank => exact blank

theorem Text.IsKeyword.trim_eq {text : List Char} (keyword : IsKeyword text) : trim text = text :=
  trim_eq_self keyword.first keyword.last

namespace Preferences

private theorem mem_readKeywords_iff {list keyword : String} : keyword ∈ readKeywords list ↔
    ∃ piece ∈ list.toList.splitOn ',', Text.trim piece ≠ [] ∧ String.ofList (Text.trim piece) = keyword := by
  simp only [readKeywords, Text.pieces_eq_splitOn, List.mem_map, List.mem_filter]
  constructor
  · rintro ⟨letters, ⟨⟨piece, cut, rfl⟩, something⟩, rfl⟩
    exact ⟨piece, cut, by simpa using something, rfl⟩
  · rintro ⟨piece, cut, something, rfl⟩
    exact ⟨Text.trim piece, ⟨⟨piece, cut, rfl⟩, by simpa using something⟩, rfl⟩

private theorem any_contains_readKeywords (list title : String) :
    ((readKeywords list).any fun keyword => Text.contains title keyword) = true ↔
      Text.NamesDivider list title := by
  simp only [List.any_eq_true, mem_readKeywords_iff, Text.contains, Text.occursIn_iff]
  constructor
  · rintro ⟨keyword, ⟨piece, cut, something, rfl⟩, occurs⟩
    rw [String.toList_ofList] at occurs
    exact ⟨piece, cut, something, occurs⟩
  · rintro ⟨piece, cut, something, occurs⟩
    refine ⟨_, ⟨piece, cut, something, rfl⟩, ?_⟩
    rw [String.toList_ofList]
    exact occurs

private theorem readKeywords_intercalate {keywords : List String}
    (proper : ∀ keyword ∈ keywords, Text.IsKeyword keyword.toList) :
    readKeywords (",".intercalate keywords) = keywords := by
  by_cases none : keywords = []
  · subst none
    rfl
  -- There is a keyword, so that the pieces of the list are the keywords; no keywords make one empty piece.
  have uncut : ∀ letters ∈ keywords.map String.toList, ',' ∉ letters := by
    intro letters member
    obtain ⟨keyword, known, rfl⟩ := List.mem_map.mp member
    exact (proper keyword known).uncut
  have pieces : Text.pieces ',' (",".intercalate keywords).toList = keywords.map String.toList := by
    rw [Text.pieces_eq_splitOn, String.toList_intercalate]
    apply List.splitOn_intercalate ',' uncut
    exact mt List.map_eq_nil_iff.mp none
  have trimmed : (keywords.map String.toList).map Text.trim = keywords.map String.toList := by
    rw [List.map_map]
    apply List.map_congr_left
    intro keyword known
    exact (proper keyword known).trim_eq
  have kept : (keywords.map String.toList).filter (!·.isEmpty) = keywords.map String.toList := by
    rw [List.filter_eq_self]
    intro letters member
    obtain ⟨keyword, known, rfl⟩ := List.mem_map.mp member
    simpa using (proper keyword known).ne_nil
  rw [readKeywords, pieces, trimmed, kept, List.map_map]
  simp [Function.comp_def]

variable {lookup : String → Option String} {list : String}

private theorem dividerKeywords_ofVariables (known : lookup keywordsVariable = some list) :
    (ofVariables lookup).dividerKeywords = readKeywords list := by
  rw [ofVariables, known]
  rfl

end Preferences

private theorem Style.ofDraft_eq_divider_iff {draft : Draft} {position : Nat} {keywords : List String} :
    ofDraft draft position keywords = .divider ↔
      (draft.kind ≠ .code ∧ ¬ (draft.kind = .title ∧ position = 1)) ∧
        (keywords.any fun keyword => Text.contains draft.title keyword) = true := by
  rw [ofDraft]
  split
  next first => simp [first]
  next inner =>
    split
    next code => simp [code]
    next prose =>
      split
      next found => exact ⟨fun _ => ⟨⟨prose, inner⟩, found⟩, fun _ => rfl⟩
      next other => exact ⟨nofun, fun shown => absurd shown.2 other⟩

private theorem Style.ofDraft_of_prose {draft : Draft} {position : Nat} (prose : draft.kind ≠ .code)
    (inner : ¬ (draft.kind = .title ∧ position = 1)) (keywords : List String) :
    ofDraft draft position keywords = .divider ∨ ofDraft draft position keywords = .content := by
  rw [ofDraft, if_neg inner, if_neg prose]
  split
  · exact .inl rfl
  · exact .inr rfl

namespace Preferences
variable {lookup : String → Option String} {list : String}

/-- A slide that is neither the title slide nor code is a divider exactly if the list of the keywords names
one for its title, and a slide of text otherwise; so a list of commas and white space makes no dividers. The
keywords that are read from the list are read again from the list that they make. -/
theorem divider_iff_named (known : lookup keywordsVariable = some list) :
    (∀ (draft : Draft) (position : Nat) (title footer : Option String), draft.kind ≠ .code →
      ¬ (draft.kind = .title ∧ position = 1) →
      let keywords := ((ofVariables lookup).deckSettings title footer).dividerKeywords
      (Style.ofDraft draft position keywords = .divider ↔ Text.NamesDivider list draft.title) ∧
        (Style.ofDraft draft position keywords = .content ↔ ¬ Text.NamesDivider list draft.title)) ∧
    ((∀ char ∈ list.toList, char = ',' ∨ Text.isBlank char = true) →
      ∀ (draft : Draft) (position : Nat) (title footer : Option String),
        Style.ofDraft draft position ((ofVariables lookup).deckSettings title footer).dividerKeywords ≠
          .divider) ∧
    ∀ other, other keywordsVariable = some (",".intercalate (ofVariables lookup).dividerKeywords) →
      (ofVariables other).dividerKeywords = (ofVariables lookup).dividerKeywords := by
  have read := dividerKeywords_ofVariables known
  refine ⟨?_, ?_, ?_⟩
  · intro draft position title footer prose inner keywords
    have divides : Style.ofDraft draft position keywords = .divider ↔ Text.NamesDivider list draft.title := by
      rw [Style.ofDraft_eq_divider_iff, ← any_contains_readKeywords, ← read]
      exact and_iff_right ⟨prose, inner⟩
    refine ⟨divides, ?_⟩
    rw [← divides]
    cases Style.ofDraft_of_prose prose inner keywords with
    | inl divider => simp [divider]
    | inr content => simp [content]
  · intro idle draft position title footer divides
    have found := (Style.ofDraft_eq_divider_iff.mp divides).2
    rw [deckSettings, read, any_contains_readKeywords] at found
    exact Text.not_namesDivider_of_idle idle draft.title found
  · intro other joined
    rw [dividerKeywords_ofVariables joined]
    exact readKeywords_intercalate (keywords_ofVariables lookup)

/-- Of a padded list with stray commas, a piece that is in a title decides, and the space within it counts. -/
theorem divider_iff_named_by_padded_list :
    let lookup := fun name => if name = keywordsVariable then some " , Wrap up,Q & A ,,\t" else none
    let keywords := ((ofVariables lookup).deckSettings none none).dividerKeywords
    Style.ofDraft { title := "Day 1: Wrap up" } 2 keywords = .divider ∧
      Style.ofDraft { title := "Wrap  up, A", content := "- end\n" } 3 keywords = .content ∧
      ",".intercalate (ofVariables lookup).dividerKeywords = "Wrap up,Q & A" ∧
      (ofVariables fun _ => some "Wrap up,Q & A").dividerKeywords = (ofVariables lookup).dividerKeywords := by
  intro lookup keywords
  have known : lookup keywordsVariable = some " , Wrap up,Q & A ,,\t" := if_pos rfl
  have listed : ",".intercalate (ofVariables lookup).dividerKeywords = "Wrap up,Q & A" := by decide +kernel
  obtain ⟨styles, -, again⟩ := divider_iff_named known
  refine ⟨?_, ?_, listed, again (fun _ => some "Wrap up,Q & A") (by rw [listed])⟩
  · exact (styles { title := "Day 1: Wrap up" } 2 none none (by decide) (by decide)).1.mpr (by decide +kernel)
  · exact (styles { title := "Wrap  up, A", content := "- end\n" } 3 none none (by decide) (by decide)).2.mpr
      (by decide +kernel)

end Preferences

end SlidePress
