import SlidePress.Proofs.ConversionWrites
import SlidePress.Proofs.DrawingsFound
import SlidePress.Proofs.PictureEndings

/-! What the tool that converts drawings takes its arguments for. It is handed paths as they are written, and
so takes the drawing and its picture for options exactly if the path of the drawing begins like one. -/

namespace SlidePress

/-- Whether an argument begins like an option. -/
def Command.IsOption (argument : String) : Prop := ['-'] <+: argument.toList

instance (argument : String) : Decidable (Command.IsOption argument) :=
  inferInstanceAs (Decidable (_ <+: _))

/-- The first piece of a text is what stands in front of its first cut. -/
theorem Text.prefix_of_pieces {cut : Char} {text first : List Char} {others : List (List Char)}
    (parts : pieces cut text = first :: others) : text = first ∨ first ++ [cut] <+: text := by
  rw [pieces_eq_splitOn] at parts
  have whole : [cut].intercalate (text.splitOn cut) = text := List.intercalate_splitOn cut
  rw [parts] at whole
  cases others with
  | nil =>
    rw [List.intercalate_singleton] at whole
    exact .inl whole.symm
  | cons other others =>
    rw [List.intercalate_cons_cons] at whole
    exact .inr ⟨_, whole⟩

namespace Path

/-- A path begins like an option exactly if its first step is a name that does. -/
theorem isOption_text_iff (path : Path) : Command.IsOption path.text ↔
    ∃ name, path.steps.head? = some (.name name) ∧ Command.IsOption name := by
  rw [Command.IsOption, steps_eq]
  rcases path.split_cases with ⟨rest, text, parts⟩ | ⟨text, parts⟩ | ⟨rest, text, parts⟩ |
    ⟨notRoot, notDot, notHere, parts⟩
  · simp [text, frontSteps, parts, List.cons_prefix_cons]
  · simp [text, frontSteps, parts, List.cons_prefix_cons]
  · simp [text, frontSteps, parts, List.cons_prefix_cons]
  · have anywhere : path.frontSteps = [] := by rw [frontSteps, parts]
    rw [anywhere, List.nil_append, List.head?_map, active]
    by_cases empty : path.text.toList = []
    · simp [empty, Text.pieces, isIdle]
    · cases cut : Text.pieces '/' path.text.toList with
      | nil =>
        rw [Text.pieces_eq_splitOn] at cut
        exact absurd cut (List.splitOn_ne_nil _ _)
      | cons first others =>
        have either := Text.prefix_of_pieces cut
        have busy : isIdle first = false := by
          refine isIdle_eq_false_iff.mpr ⟨?_, ?_⟩
          · rintro rfl
            rcases either with whole | ⟨rest, root⟩
            · exact empty whole
            · exact notRoot (by rw [← root]; rfl)
          · rintro rfl
            exact either.elim notDot notHere
        have begins : first <+: path.text.toList :=
          either.elim (fun whole => whole ▸ List.prefix_rfl) (List.prefix_append first ['/']).trans
        obtain ⟨char, more, rfl⟩ := List.exists_cons_of_ne_nil (isIdle_eq_false_iff.mp busy).1
        obtain ⟨rest, whole⟩ := begins
        rw [List.filter_cons_of_pos (by simp [busy]), List.head?_cons, Option.map_some, stepOf, ← whole]
        split
        next up =>
          obtain ⟨rfl, -⟩ := List.cons.inj up
          simp [List.cons_prefix_cons]
        next => simp [Command.IsOption, List.cons_prefix_cons]

end Path

namespace Conversion

private theorem isOption_pictureName_iff (name : String) :
    Command.IsOption (pictureName name) ↔ Command.IsOption name := by
  rw [Command.IsOption, Command.IsOption]
  by_cases occurs : drawingEnding <:+: name.toList
  · rw [pictureName_of_occurs occurs]
    exact Text.prefix_replaceAll_iff (by decide) name.toList
  · rw [pictureName_of_not_occurs occurs]
    cases name.toList with
    | nil => decide
    | cons char rest => simp [List.cons_prefix_cons]

/-- The picture stands where the drawing does, so that its path begins as that of the drawing. -/
theorem isOption_picturePath_iff (drawing : Path) :
    Command.IsOption (picturePath drawing).text ↔ Command.IsOption drawing.text := by
  rw [Path.isOption_text_iff, Path.isOption_text_iff]
  cases named : drawing.name? with
  | some name =>
    obtain ⟨folder, found, -⟩ := picturePath_eq_join named
    rw [picturePath_steps named found, Path.steps_of_name? named found]
    cases folder.steps with
    | nil => simp [isOption_pictureName_iff]
    | cons step steps => rfl
  | none =>
    have written : picturePath drawing = drawing.join ⟨pictureName ""⟩ := by
      rw [picturePath, named, Path.withName, named]
      rfl
    have plain : ¬ Command.IsOption (pictureName "") := by decide
    rw [written, Path.steps_join ⟨by decide, by decide, by decide⟩]
    cases drawing.steps with
    | nil => simp [plain]
    | cons step steps => rfl

def optionPlaces : List Nat := [0, 2, 5]

/-- Whether a command has arguments that begin like options at the places of options only. -/
def HasOwnOptions (command : Command) : Prop :=
  ∀ place argument, command.arguments[place]? = some argument → place ∉ optionPlaces →
    ¬ Command.IsOption argument

private theorem not_isOption_repr (number : Nat) : ¬ Command.IsOption (toString number) := by
  intro option
  have digit : '-' ∈ number.repr.toList := option.subset List.mem_cons_self
  rw [Nat.toList_repr] at digit
  exact absurd (Nat.isDigit_of_mem_toDigits (by decide) (by decide) digit) (by decide)

private theorem hasOwnOptions_toolCommand_iff (settings : Settings) (drawing : Path) :
    HasOwnOptions (toolCommand settings drawing) ↔ ¬ Command.IsOption drawing.text := by
  constructor
  · intro own
    exact own 4 drawing.text rfl (by decide)
  · intro plain place argument found other
    rw [toolCommand] at found
    match place with
    | 0 | 2 | 5 => exact absurd (by decide) other
    | 1 | 3 =>
      obtain rfl := Option.some.inj found
      exact not_isOption_repr _
    | 4 =>
      obtain rfl := Option.some.inj found
      exact plain
    | 6 =>
      obtain rfl := Option.some.inj found
      exact mt (isOption_picturePath_iff drawing).mp plain
    | _ + 7 => cases found

/-! ### Conversions -/

def commands (settings : Settings) (drawings : List Path) : List Command :=
  match settings.backend with
  | .tool => drawings.map (toolCommand settings)
  | .builtIn _ => []

theorem commands_append (settings : Settings) (first second : List Path) :
    commands settings (first ++ second) = commands settings first ++ commands settings second := by
  rw [commands, commands, commands]
  split
  · exact List.map_append
  · rfl

private theorem launches_renderPicture (renderer : Renderer) (session : Session) (drawing picture : Path)
    (scale : Float32) : (renderPicture renderer session drawing picture scale).2.launches = session.launches := by
  rw [renderPicture]
  split
  · rfl
  · split
    · rfl
    · dsimp only
      split
      · rfl
      · split <;> rfl

private theorem launches_convert (machine : Machine) (settings : Settings) (session : Session)
    (drawing : Path) :
    (convert machine settings session drawing).2.launches =
      session.launches ++ commands settings [drawing] := by
  rw [convert_snd, commands]
  cases made : settings.backend with
  | tool =>
    rw [makePicture_snd_of_tool made, Session.launches_run]
    rfl
  | builtIn scale =>
    rw [makePicture_snd_of_builtIn made, launches_renderPicture]
    exact (List.append_nil _).symm

/-- Whether a loop over drawings starts the tool for each of them, in order and up to one that breaks the loop
down, and starts nothing else. -/
def StartsToolFor (settings : Settings) (run : Session → List Path → Option Report × Session) : Prop :=
  ∀ session drawings, ∃ converted, converted <+: drawings ∧
    ((run session drawings).1.isSome = true → converted = drawings) ∧
    (run session drawings).2.launches = session.launches ++ commands settings converted

private theorem Loop.launches_turn {loop : Loop} (quiet : loop.IsQuiet) (machine : Machine)
    (settings : Settings)
    (session : Session) (drawing : Path) : ∃ converted, converted <+: [drawing] ∧
      ((loop.turn machine settings session drawing).1.isSome = true → converted = [drawing]) ∧
      (loop.turn machine settings session drawing).2.launches = session.launches ++ commands settings converted := by
  rw [turn]
  split
  · refine ⟨[drawing], List.prefix_rfl, fun _ => rfl, ?_⟩
    rw [launches_convert, quiet.launches_front]
  · refine ⟨[], List.nil_prefix, ?_, ?_⟩
    · intro reported
      cases reported
    · rw [quiet.launches_front, commands]
      split <;> exact (List.append_nil _).symm

/-- Loops that only tell start the tool for their drawings. -/
theorem Loop.startsToolFor_run {loop : Loop} (quiet : loop.IsQuiet) (machine : Machine) (settings : Settings)
    (report : Report) : StartsToolFor settings (loop.run machine settings report) := by
  intro session drawings
  induction drawings generalizing report session with
  | nil =>
    refine ⟨[], List.prefix_rfl, fun _ => rfl, ?_⟩
    rw [run, commands]
    split <;> exact (List.append_nil _).symm
  | cons drawing drawings ih =>
    obtain ⟨one, front, whole, launched⟩ := launches_turn quiet machine settings session drawing
    rw [run]
    split
    next outcome after turned =>
      rw [turned] at whole launched
      obtain rfl := whole rfl
      obtain ⟨converted, begins, all, more⟩ := ih (report.push outcome) (loop.behind outcome after)
      refine ⟨drawing :: converted, List.cons_prefix_cons.mpr ⟨rfl, begins⟩, ?_, ?_⟩
      · intro reported
        rw [all reported]
      · rw [more, quiet.launches_behind, launched, List.append_assoc, ← commands_append]
        rfl
    next after turned =>
      rw [turned] at launched
      refine ⟨one, front.trans (List.prefix_append [drawing] drawings), ?_, launched⟩
      intro reported
      cases reported

/-- Both loops start the tool for drawings in their order, and nothing else; and the tool gets no options but its
own unless a drawing begins like one: exactly then its path, and that of its picture, stand where the tool
looks for options. -/
theorem drawing_is_no_option_iff (machine : Machine) (settings : Settings) :
    StartsToolFor settings (convertAll machine settings) ∧
      StartsToolFor settings (CommandLine.reportEach machine settings) ∧
      ∀ drawing : Path, (toolCommand settings drawing).arguments[4]? = some drawing.text ∧
        (HasOwnOptions (toolCommand settings drawing) ↔ ¬ Command.IsOption drawing.text) := by
  refine ⟨?_, ?_, fun drawing => ⟨rfl, hasOwnOptions_toolCommand_iff settings drawing⟩⟩
  · rw [Loop.convertAll_eq_run]
    exact Loop.startsToolFor_run Loop.isQuiet_silent machine settings {}
  · rw [Loop.reportEach_eq_run]
    exact Loop.startsToolFor_run (Loop.isQuiet_telling machine) machine settings {}

/-- A drawing that is found in the working folder is handed to the tool by its bare name. -/
theorem drawing_taken_for_option :
    findDrawings (oneDrawing "-x.svg") ⟨"."⟩ "*.svg" = .ok [⟨"-x.svg"⟩] ∧
    (toolCommand {} ⟨"-x.svg"⟩).arguments = ["-w", "1200", "-h", "630", "-x.svg", "-o", "-x.png"] ∧
    Command.IsOption "-x.svg" ∧
    ¬ ∀ (settings : Settings) (drawing : Path), HasOwnOptions (toolCommand settings drawing) := by
  have named : FileTree.IsFileName "-x.svg" := by decide +kernel
  have spelled : Glob.Spells svgTokens "-x.svg".toList := Glob.matchesText_iff.mp (by decide)
  have option : Command.IsOption "-x.svg" := by decide
  refine ⟨findDrawings_dot named (by decide) (by decide) rfl spelled, by decide +kernel, option, ?_⟩
  intro always
  exact (hasOwnOptions_toolCommand_iff {} ⟨"-x.svg"⟩).mp (always {} ⟨"-x.svg"⟩) option

end Conversion

end SlidePress
