import GosuForge.Console.Program
import GosuForge.Proofs.CommandLine

/-!
# Flags and options

A few switches of `generate` stand for options of the library, each for one of its own.

* `Command.Flag`: a flag with its texts and its option, `Flag.options`: the options of several;
* `Command.StandsFor`: what is noted of flags stands for their options;
* `Program.get?_overrides_of_standsFor`: so does what a command puts on top of the settings, except for
  an author without a name;
* `Command.ofArguments_generateArguments`: what is read of arguments with flags.
-/

namespace GosuForge

namespace Command

/-- A switch of `generate` that stands for an option of the library. -/
inductive Flag
  | withoutDocs
  | tabs
  | indent (text : String) (n : Int) (plain : IsPlain text) (reads : Text.readInt? text = some n)
  | author (name : String) (plain : IsPlain name)

namespace Flag

/-- A flag on the command line. -/
def texts : Flag → List String
  | withoutDocs => ["--no-docs"]
  | tabs => ["--tabs"]
  | indent text _ _ _ => ["--indent", text]
  | author name _ => ["--author", name]

/-- The option that a flag stands for. -/
def option : Flag → String × Value
  | withoutDocs => ("doc_comments", .bool false)
  | tabs => ("use_tabs", .bool true)
  | indent _ n _ _ => ("indent_size", .int n)
  | author name _ => ("author", .str name)

/-- The options that flags stand for; the last of a kind counts. -/
def options (flags : List Flag) : Entries := Entries.update [] (flags.map option)

def written : Flag → Written
  | withoutDocs =>
    { name := "--no-docs", switch := ⟨"no_docs", ["--no-docs"], .mark⟩, text := none
      value := .bool true, known := rfl, passed := ⟨_, rfl⟩, fits := rfl, plain := nofun
      read := fun _ => rfl }
  | tabs =>
    { name := "--tabs", switch := ⟨"tabs", ["--tabs"], .mark⟩, text := none
      value := .bool true, known := rfl, passed := ⟨_, rfl⟩, fits := rfl, plain := nofun
      read := fun _ => rfl }
  | indent text n plain reads =>
    { name := "--indent", switch := ⟨"indent", ["--indent"], .number⟩, text := some text
      value := .int n, known := rfl, passed := ⟨_, rfl⟩, fits := rfl
      plain := plain.of_some
      read := plain.apply_number reads _ _ }
  | author name plain =>
    { name := "--author", switch := ⟨"author", ["--author"], .text⟩, text := some name
      value := .str name, known := rfl, passed := ⟨_, rfl⟩, fits := rfl
      plain := plain.of_some
      read := plain.apply_text _ _ }

theorem texts_written (f : Flag) : f.written.texts = f.texts := by
  cases f <;> rfl

end Flag

/-- The names of the options that flags stand for. -/
def optionNames : List String := ["doc_comments", "use_tabs", "indent_size", "author"]

/-- Each option is a setting by name. -/
theorem field_of_optionName {key : String} (h : key ∈ optionNames) :
    ∃ f : SettingsField, f ≠ .custom ∧ f.name = key := by
  simp only [optionNames, List.mem_cons, List.not_mem_nil, or_false] at h
  rcases h with rfl | rfl | rfl | rfl
  · exact ⟨.docComments, nofun, rfl⟩
  · exact ⟨.useTabs, nofun, rfl⟩
  · exact ⟨.indentSize, nofun, rfl⟩
  · exact ⟨.author, nofun, rfl⟩

/-- What is noted of flags stands for their options. -/
structure StandsFor (given options : Entries) : Prop where
  docs : options.get? "doc_comments" = (given.get? "no_docs").map fun _ => .bool false
  tabs : options.get? "use_tabs" = (given.get? "tabs").map fun _ => .bool true
  indent : options.get? "indent_size" = given.get? "indent"
  author : options.get? "author" = given.get? "author"
  text : ∀ v, given.get? "author" = some v → ∃ name, v = .str name
  named : ∀ key ∈ options.keys, key ∈ optionNames
  distinct : options.keys.Nodup

namespace StandsFor

/-- One flag more. -/
theorem note {given options : Entries} (h : StandsFor given options) (f : Flag) :
    StandsFor (f.written.note given) (options.put f.option.1 f.option.2) := by
  have named (known : f.option.1 ∈ optionNames) :
      ∀ key ∈ (options.put f.option.1 f.option.2).keys, key ∈ optionNames := by
    intro key hk
    rcases Entries.mem_keys_put.mp hk with rfl | hk
    · exact known
    · exact h.named key hk
  have known : f.option.1 ∈ optionNames := by
    cases f <;> simp [Flag.option, optionNames]
  refine ⟨?_, ?_, ?_, ?_, ?_, named known, Entries.nodup_keys_put h.distinct _ _⟩
  all_goals
    cases f <;>
      simp [Written.note, Flag.written, Flag.option, Entries.get?_put, h.docs, h.tabs, h.indent,
        h.author]
  all_goals exact h.text

/-- All flags, one after the other. -/
theorem noteAll {given options : Entries} (h : StandsFor given options) (flags : List Flag) :
    StandsFor ((flags.map Flag.written).foldl Written.note given)
      (options.update (flags.map Flag.option)) := by
  induction flags generalizing given options with
  | nil => exact h
  | cons f flags ih => exact ih (h.note f)

end StandsFor

/-- Flags leave what is noted of other switches. -/
theorem get?_noteAll {k : String} (other : k ∉ ["no_docs", "tabs", "indent", "author"])
    (flags : List Flag) (given : Entries) :
    Entries.get? ((flags.map Flag.written).foldl Written.note given) k = given.get? k := by
  induction flags generalizing given with
  | nil => rfl
  | cons f flags ih =>
    have apart : k ≠ f.written.switch.key := by
      rintro rfl
      exact other (by cases f <;> simp [Flag.written])
    rw [List.map_cons, List.foldl_cons, ih, Written.note, Entries.get?_put, if_neg apart]

/-! ## Commands with flags -/

/-- The arguments for a model file, an element, a folder and flags. -/
def generateArguments (file root output : String) (flags : List Flag) : List String :=
  ["generate", file, "--root", root, "-o", output] ++ flags.flatMap Flag.texts

/-- What is noted of the switches among such arguments. -/
def noted (root output : String) (flags : List Flag) : Entries :=
  (flags.map Flag.written).foldl Written.note [("root", .str root), ("output", .str output)]

/-- What is read of such arguments. -/
def generateCommand (file root output : String) (flags : List Flag) : GenerateOptions :=
  generateOptions ⟨noted root output flags, some [file], []⟩

theorem ofArguments_generateArguments {file root output : String} (plainFile : IsPlain file)
    (plainRoot : IsPlain root) (plainOutput : IsPlain output) (flags : List Flag) :
    ofArguments (generateArguments file root output flags) =
      .ok (.generate (generateCommand file root output flags)) := by
  have written : generateArguments file root output flags = argumentsOf file
      (.root root plainRoot :: .output output plainOutput :: flags.map Flag.written) := by
    have flagTexts : (flags.map Flag.written).flatMap Written.texts = flags.flatMap Flag.texts := by
      rw [List.flatMap_map]
      exact List.flatMap_congr fun f _ => f.texts_written
    rw [argumentsOf, List.flatMap_cons, List.flatMap_cons, flagTexts]
    rfl
  rw [written, ofArguments_written plainFile]
  rfl

theorem standsFor_options (root output : String) (flags : List Flag) :
    StandsFor (noted root output flags) (Flag.options flags) := by
  have start : StandsFor [("root", .str root), ("output", .str output)] [] :=
    ⟨rfl, rfl, rfl, rfl, nofun, nofun, List.nodup_nil⟩
  exact start.noteAll flags

section

variable (file root output : String) (flags : List Flag)

theorem get?_noted {k : String} (other : k ∉ ["no_docs", "tabs", "indent", "author"]) :
    (noted root output flags).get? k =
      Entries.get? [("root", .str root), ("output", .str output)] k := get?_noteAll other flags _

theorem text?_noted {k : String} (other : k ∉ ["no_docs", "tabs", "indent", "author"]) :
    Parsed.text? ⟨noted root output flags, some [file], []⟩ k =
      Parsed.text? ⟨[("root", .str root), ("output", .str output)], some [file], []⟩ k := by
  rw [Parsed.text?, Parsed.value, Entries.getD, get?_noted root output flags other]
  rfl

theorem isMarked_noted {k : String} (other : k ∉ ["no_docs", "tabs", "indent", "author"]) :
    Parsed.isMarked ⟨noted root output flags, some [file], []⟩ k =
      Parsed.isMarked ⟨[("root", .str root), ("output", .str output)], some [file], []⟩ k := by
  rw [Parsed.isMarked, Entries.has, get?_noted root output flags other]
  rfl

theorem generateCommand_root : (generateCommand file root output flags).root = some root :=
  text?_noted file root output flags (by decide)

theorem generateCommand_output : (generateCommand file root output flags).output = some output :=
  text?_noted file root output flags (by decide)

theorem generateCommand_config : (generateCommand file root output flags).config = none :=
  text?_noted file root output flags (by decide)

theorem generateCommand_language :
    (generateCommand file root output flags).language = some "gosu" := by
  show textOr _ "language" "gosu" = some "gosu"
  rw [textOr, isMarked_noted file root output flags (by decide)]
  rfl

theorem generateCommand_isDryRun : (generateCommand file root output flags).isDryRun = false :=
  isMarked_noted file root output flags (by decide)

theorem generateCommand_isVerbose : (generateCommand file root output flags).isVerbose = false :=
  isMarked_noted file root output flags (by decide)

end

end Command

namespace Program

/-- What a command puts on top of the settings, key by key. -/
theorem get?_overrides (o : GenerateOptions) (k : String) :
    (overrides o).get? k =
      if k = "doc_comments" then if o.withoutDocs then some (.bool false) else none
      else if k = "use_tabs" then if o.useTabs then some (.bool true) else none
      else if k = "indent_size" then o.indent
      else if k = "author" then (o.author.filter (· ≠ "")).map .str
      else none := by
  have whenever (b : Bool) (key : String) (v : Value) (rest : Entries) :
      Entries.get? ((if b then [(key, v)] else []) ++ rest) k =
        if k = key then (if b then some v else none).or (rest.get? k) else rest.get? k := by
    cases b
    · simp
    · simp [Entries.get?_cons]
  have given (v : Option Value) (key : String) (rest : Entries) :
      Entries.get? ((v.map fun v => (key, v)).toList ++ rest) k =
        if k = key then v.or (rest.get? k) else rest.get? k := by
    cases v
    · simp
    · simp [Entries.get?_cons]
  have last : (o.author.filter (· ≠ "")).map (fun author => ("author", Value.str author)) =
      ((o.author.filter (· ≠ "")).map Value.str).map fun v => ("author", v) := by
    rw [Option.map_map]
    rfl
  rw [overrides, last, List.append_assoc, List.append_assoc, whenever, whenever, given,
    ← List.append_nil (Option.toList _), given, Entries.get?, List.lookup_nil]
  by_cases docs : k = "doc_comments"
  · simp [docs]
  · by_cases tabs : k = "use_tabs"
    · simp [tabs]
    · by_cases indent : k = "indent_size"
      · simp [indent]
      · simp [docs, tabs, indent]

theorem nodup_keys_overrides (o : GenerateOptions) : (overrides o).keys.Nodup := by
  unfold overrides
  cases o.withoutDocs <;> cases o.useTabs <;> cases o.indent <;>
    cases o.author.filter (· ≠ "") <;> simp [Entries.keys]

theorem mem_optionNames_of_overrides {o : GenerateOptions} {k : String}
    (h : k ∈ (overrides o).keys) : k ∈ Command.optionNames := by
  obtain ⟨v, hv⟩ := Entries.mem_keys.mp h
  rw [get?_overrides] at hv
  by_contra unknown
  simp only [Command.optionNames, List.mem_cons, List.not_mem_nil, or_false, not_or] at unknown
  simp [unknown] at hv

/-- What a command puts on top of the settings is what its flags stand for, except for an author without
a name. -/
theorem get?_overrides_of_standsFor {given options : Entries} (h : Command.StandsFor given options)
    (file : List String) (k : String) :
    (overrides (Command.generateOptions ⟨given, some file, []⟩)).get? k =
      if k = "author" then (options.get? k).filter Value.truthy else options.get? k := by
  have docs : (if (given.get? "no_docs").isSome then some (Value.bool false) else none) =
      options.get? "doc_comments" := by
    rw [h.docs]
    cases given.get? "no_docs" <;> rfl
  have tabs : (if (given.get? "tabs").isSome then some (Value.bool true) else none) =
      options.get? "use_tabs" := by
    rw [h.tabs]
    cases given.get? "tabs" <;> rfl
  have author : ((Parsed.text? ⟨given, some file, []⟩ "author").filter (· ≠ "")).map Value.str =
      (options.get? "author").filter Value.truthy := by
    rw [h.author, Parsed.text?, Parsed.value, Entries.getD]
    cases e : given.get? "author" with
    | none => rfl
    | some v =>
      obtain ⟨name, rfl⟩ := h.text v e
      by_cases empty : name = ""
      · rw [empty]
        rfl
      · simp [Option.filter, Value.truthy, empty]
  rw [get?_overrides]
  simp only [Command.generateOptions, Parsed.isMarked, Entries.has, docs, tabs, author, ← h.indent]
  by_cases known : k ∈ Command.optionNames
  · simp only [Command.optionNames, List.mem_cons, List.not_mem_nil, or_false] at known
    rcases known with rfl | rfl | rfl | rfl <;> simp
  · have absent : options.get? k = none := Entries.get?_eq_none fun hk => known (h.named k hk)
    simp only [Command.optionNames, List.mem_cons, List.not_mem_nil, or_false, not_or] at known
    simp [known, absent]

end Program

end GosuForge
