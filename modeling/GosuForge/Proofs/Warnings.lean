import GosuForge.Proofs.Lines
import GosuForge.Proofs.TakenOver

/-!
# What is warned of and what is refused

Settings can be checked for warnings, and a generator refuses settings that it cannot use. The two checks
are written apart.

* `Value.display_notPointed`: only a text can be shown with a point in front;
* `Settings.warnings_eq`: the warnings, one list for each setting;
* `GosuSettings.accept_iff`: the settings that are taken over;
* `GosuSettings.accept_iff_warnings`: a warning that is not about line endings means refusal, and there
  is no other reason for it than a truth value for the indentation, an extension that is given as null,
  and too deep a nesting;
* `GosuSettings.truth_value_unwarned`: a truth value is refused without a warning.
-/

namespace GosuForge

/-! ## How values begin -/

/-- The text has a first character, and it is not a point. -/
def Text.NotPointed (cs : List Char) : Prop := ∃ c rest, cs = c :: rest ∧ c ≠ '.'

theorem Text.NotPointed.append {cs : List Char} (h : NotPointed cs) (more : List Char) :
    NotPointed (cs ++ more) := by
  obtain ⟨c, rest, rfl, hc⟩ := h
  exact ⟨c, rest ++ more, rfl, hc⟩

theorem Text.NotPointed.startsWith {s : String} (h : NotPointed s.toList) :
    startsWith "." s = false := by
  obtain ⟨c, rest, e, hc⟩ := h
  rw [Bool.eq_false_iff, ne_eq, startsWith_iff, e]
  exact fun pointed => hc (List.cons_prefix_cons.mp pointed).1.symm

theorem notPointed_repr (n : Nat) : Text.NotPointed (Nat.repr n).toList := by
  rw [Nat.toList_repr]
  cases e : Nat.toDigits 10 n with
  | nil => exact absurd e Nat.toDigits_ne_nil
  | cons d rest =>
    refine ⟨d, rest, rfl, ?_⟩
    rintro rfl
    have digit : ('.' : Char).isDigit = true :=
      Nat.isDigit_of_mem_toDigits (by decide) (by decide) (e ▸ List.mem_cons_self)
    exact absurd digit (by decide)

namespace Binary64

theorem notPointed_magnitudeText (mantissa : Nat) (exponent : Int) :
    Text.NotPointed (magnitudeText mantissa exponent) := by
  have zero (rest : List Char) : Text.NotPointed ('0' :: rest) := ⟨'0', rest, rfl, by decide⟩
  rw [magnitudeText]
  split
  · exact zero _
  · dsimp only
    generalize (dropZeros _ _ 400).1 = digits, (dropZeros _ _ 400).2 = scale
    obtain ⟨d, ds, e, hd⟩ := notPointed_repr digits
    have first (rest : List Char) : Text.NotPointed (d :: rest) := ⟨d, rest, rfl, hd⟩
    rw [e]
    split
    · rw [positional]
      split
      · exact zero _
      · dsimp only
        split
        · exact first _
        · rw [List.take_succ_cons]
          exact first _
    · unfold scientific
      cases ds <;> exact first _

end Binary64

namespace Value

/-- **Only a text can be shown with a point in front.** -/
theorem display_notPointed {v : Value} (json : v.IsJson) (h : ∀ s, v ≠ .str s) :
    Text.NotPointed v.display.toList := by
  cases json with
  | null => exact ⟨'N', _, rfl, by decide⟩
  | bool b => cases b <;> exact ⟨_, _, rfl, by decide⟩
  | int n =>
    cases n with
    | ofNat m => exact notPointed_repr m
    | negSucc m =>
      have : (Value.int (.negSucc m)).display = "-" ++ (Nat.repr (m + 1)) := rfl
      rw [this, String.toList_append]
      exact ⟨'-', _, rfl, by decide⟩
  | float x hx =>
    show Text.NotPointed x.text.toList
    cases x with
    | nan => exact absurd rfl hx
    | infinity negative => cases negative <;> exact ⟨_, _, rfl, by decide⟩
    | finite negative mantissa exponent =>
      have text : (Binary64.finite negative mantissa exponent).text =
          (if negative then "-" else "") ++ String.ofList (Binary64.magnitudeText mantissa exponent) :=
        rfl
      rw [text, String.toList_append, String.toList_ofList]
      cases negative
      · exact Binary64.notPointed_magnitudeText mantissa exponent
      · exact ⟨'-', _, rfl, by decide⟩
  | str s => exact absurd rfl (h s)
  | arr items =>
    have : (Value.arr items).display = "[" ++ Text.join ", " (innerItems items) ++ "]" := rfl
    rw [this, String.toList_append, String.toList_append]
    exact ⟨'[', _, rfl, by decide⟩
  | obj entries =>
    have : (Value.obj entries).display =
      "\x7b" ++ Text.join ", " (innerEntries entries) ++ "\x7d" := rfl
    rw [this, String.toList_append, String.toList_append]
    exact ⟨_, _, rfl, by decide⟩

end Value

/-! ## Warnings -/

namespace Settings

def indentWarnings (v : Value) : List String :=
  match v.wholeNumber? with
  | some n => if n < 0 then ["Invalid indent_size: " ++ v.display] else []
  | none => ["Invalid indent_size: " ++ v.display]

def lineWarnings (ending : String) : List String :=
  if ending = "\n" ∨ ending = "\r\n" then [] else ["Invalid line_ending: " ++ Text.quoted ending]

def extensionWarnings (custom : Entries) (key : String) : List String :=
  let v := custom.getD key .null
  if v.isNull || Text.startsWith "." v.display then [] else ["Invalid " ++ key ++ ": " ++ v.display]

def usesWarnings (custom : Entries) : List String :=
  match custom.getD "uses" (.arr []) with
  | .arr _ => []
  | v => ["Invalid uses: " ++ v.display]

theorem warnings_eq {s : Settings} {ending : String} {custom : Entries}
    (he : s.lineEnding = .str ending) (hc : s.custom = .obj custom) :
    s.warnings (.str "gosu") = .ok (indentWarnings s.indentSize ++ lineWarnings ending
      ++ extensionWarnings custom "source_extension"
      ++ extensionWarnings custom "enhancement_extension" ++ usesWarnings custom) := by
  have entries : s.customEntries = .ok custom := by
    rw [customEntries, hc]
  simp only [warnings, he, entries]
  split
  · rename_i unix
    cases unix
    rfl
  · rename_i windows
    cases windows
    rfl
  · rename_i unix windows
    have other : ¬ (ending = "\n" ∨ ending = "\r\n") := by
      rintro (rfl | rfl)
      · exact unix rfl
      · exact windows rfl
    have key : (Value.str ending).isKey = true := rfl
    rw [lineWarnings, if_neg other, if_pos key]
    rfl

/-- A warning that is about line endings. -/
def IsAboutLines (w : String) : Prop := Text.startsWith "Invalid line_ending: " w = true

theorem not_isAboutLines {start : String} (length : 9 ≤ start.toList.length)
    (other : ¬ "Invalid l".toList <+: start.toList) (rest : String) : ¬ IsAboutLines (start ++ rest) := by
  intro about
  have long : "Invalid l".toList <+: (start ++ rest).toList :=
    List.IsPrefix.trans (by decide) (Text.startsWith_iff.mp about)
  have short : start.toList <+: (start ++ rest).toList := by
    rw [String.toList_append]
    exact List.prefix_append _ _
  exact other (List.prefix_of_prefix_length_le long short length)

theorem isAboutLines_lineWarnings {ending w : String} (h : w ∈ lineWarnings ending) :
    IsAboutLines w := by
  rw [lineWarnings] at h
  split at h
  · cases h
  · rw [List.mem_singleton.mp h, IsAboutLines, Text.startsWith_iff, String.toList_append]
    exact List.prefix_append _ _

theorem not_isAboutLines_indentWarnings {v : Value} :
    ∀ w ∈ indentWarnings v, ¬ IsAboutLines w := by
  have other (rest : String) : ¬ IsAboutLines ("Invalid indent_size: " ++ rest) :=
    not_isAboutLines (by decide) (by decide) rest
  intro w hw
  rw [indentWarnings] at hw
  split at hw
  · split at hw
    · rw [List.mem_singleton.mp hw]
      exact other _
    · cases hw
  · rw [List.mem_singleton.mp hw]
    exact other _

theorem not_isAboutLines_extensionWarnings {custom : Entries} {key : String}
    (length : 9 ≤ ("Invalid " ++ key ++ ": ").toList.length)
    (other : ¬ "Invalid l".toList <+: ("Invalid " ++ key ++ ": ").toList) :
    ∀ w ∈ extensionWarnings custom key, ¬ IsAboutLines w := by
  intro w hw
  simp only [extensionWarnings] at hw
  split at hw
  · cases hw
  · rw [List.mem_singleton.mp hw]
    exact not_isAboutLines length other _

theorem not_isAboutLines_usesWarnings {custom : Entries} :
    ∀ w ∈ usesWarnings custom, ¬ IsAboutLines w := by
  intro w hw
  rw [usesWarnings] at hw
  split at hw
  · cases hw
  · rw [List.mem_singleton.mp hw]
    exact not_isAboutLines (by decide) (by decide) _

/-- The warnings that are not about line endings. -/
theorem forall_isAboutLines_iff {s : Settings} {ending : String} {custom : Entries}
    (he : s.lineEnding = .str ending) (hc : s.custom = .obj custom) :
    (∃ ws, s.warnings (.str "gosu") = .ok ws ∧ ∀ w ∈ ws, IsAboutLines w) ↔
      indentWarnings s.indentSize = [] ∧ extensionWarnings custom "source_extension" = [] ∧
        extensionWarnings custom "enhancement_extension" = [] ∧ usesWarnings custom = [] := by
  have none {ws : List String} (others : ∀ w ∈ ws, ¬ IsAboutLines w) :
      (∀ w ∈ ws, IsAboutLines w) ↔ ws = [] := by
    rw [List.eq_nil_iff_forall_not_mem]
    exact ⟨fun all w hw => others w hw (all w hw), fun empty w hw => absurd hw (empty w)⟩
  rw [warnings_eq he hc]
  simp only [Except.ok.injEq, exists_eq_left', List.forall_mem_append]
  rw [none not_isAboutLines_indentWarnings,
    none (not_isAboutLines_extensionWarnings (by decide) (by decide)),
    none (not_isAboutLines_extensionWarnings (by decide) (by decide)),
    none not_isAboutLines_usesWarnings]
  have lines : ∀ w ∈ lineWarnings ending, IsAboutLines w := fun w => isAboutLines_lineWarnings
  constructor
  · rintro ⟨⟨⟨⟨indent, -⟩, source⟩, enhancement⟩, uses⟩
    exact ⟨indent, source, enhancement, uses⟩
  · rintro ⟨indent, source, enhancement, uses⟩
    exact ⟨⟨⟨⟨indent, lines⟩, source⟩, enhancement⟩, uses⟩

end Settings

/-! ## Refusal -/

namespace GosuSettings

open Settings

theorem readExtension_iff {custom : Entries} {key : String} :
    (∃ extension, readExtension custom key = .ok extension) ↔
      ∃ extension, custom.get? key = some (.str extension) ∧
        Text.startsWith "." extension = true := by
  rw [readExtension, Entries.getD]
  cases e : custom.get? key with
  | none =>
    constructor
    · rintro ⟨_, ⟨⟩⟩
    · rintro ⟨_, ⟨⟩, -⟩
  | some v =>
    cases v with
    | str extension =>
      simp only [Option.getD_some]
      by_cases pointed : Text.startsWith "." extension = true
      · rw [if_pos pointed]
        exact iff_of_true ⟨extension, rfl⟩ ⟨extension, rfl, pointed⟩
      · rw [if_neg pointed]
        constructor
        · rintro ⟨_, ⟨⟩⟩
        · rintro ⟨_, ⟨⟩, contrary⟩
          exact absurd contrary pointed
    | _ =>
      constructor
      · rintro ⟨_, ⟨⟩⟩
      · rintro ⟨_, ⟨⟩, -⟩

theorem readIndent_iff {v : Value} :
    (∃ size, readIndent v = .ok size) ↔ ∃ n : Nat, v = .int n := by
  cases v with
  | int n =>
    rw [readIndent]
    by_cases negative : n < 0
    · rw [if_pos negative]
      constructor
      · rintro ⟨_, ⟨⟩⟩
      · rintro ⟨n, ⟨⟩⟩
        omega
    · rw [if_neg negative]
      exact iff_of_true ⟨_, rfl⟩ ⟨n.toNat, congrArg Value.int (by omega)⟩
  | _ =>
    constructor
    · rintro ⟨_, ⟨⟩⟩
    · rintro ⟨_, ⟨⟩⟩

theorem readUses_iff {custom : Entries} :
    (∃ uses, readUses custom = .ok uses) ↔ ∃ items, custom.get? "uses" = some (.arr items) := by
  rw [readUses, Entries.getD]
  cases e : custom.get? "uses" with
  | none =>
    constructor
    · rintro ⟨_, ⟨⟩⟩
    · rintro ⟨_, ⟨⟩⟩
  | some v =>
    cases v with
    | arr items => exact iff_of_true ⟨items, rfl⟩ ⟨items, rfl⟩
    | _ =>
      constructor
      · rintro ⟨_, ⟨⟩⟩
      · rintro ⟨_, ⟨⟩⟩

/-- Custom settings and an indentation that a generator can read once the defaults are filled in. -/
structure Readable (custom : Entries) (indentSize : Value) : Prop where
  source : ∃ e, filledIn custom "source_extension" = some (.str e) ∧ Text.startsWith "." e = true
  enhancement : ∃ e, filledIn custom "enhancement_extension" = some (.str e) ∧
    Text.startsWith "." e = true
  indent : ∃ n : Nat, indentSize = .int n
  uses : ∃ items, filledIn custom "uses" = some (.arr items)

theorem fill_iff {s : Settings} {custom : Entries} (hc : s.custom = .obj custom) :
    (∃ g, fill s = .ok g) ↔ Readable custom s.indentSize := by
  obtain ⟨filled, hf, lookup⟩ := fillCustom_obj custom
  rw [fill, hc, hf]
  constructor
  · rintro ⟨g, h⟩
    obtain ⟨_, ⟨⟩, h⟩ := Outcome.bind_eq_ok.mp h
    obtain ⟨_, source, h⟩ := Outcome.bind_eq_ok.mp h
    obtain ⟨_, enhancement, h⟩ := Outcome.bind_eq_ok.mp h
    obtain ⟨_, indent, h⟩ := Outcome.bind_eq_ok.mp h
    obtain ⟨_, uses, -⟩ := Outcome.bind_eq_ok.mp h
    exact {
      source := by simpa only [lookup] using readExtension_iff.mp ⟨_, source⟩
      enhancement := by simpa only [lookup] using readExtension_iff.mp ⟨_, enhancement⟩
      indent := readIndent_iff.mp ⟨_, indent⟩
      uses := by simpa only [lookup] using readUses_iff.mp ⟨_, uses⟩ }
  · intro h
    have sourceGiven := h.source
    have enhancementGiven := h.enhancement
    have usesGiven := h.uses
    simp only [← lookup] at sourceGiven enhancementGiven usesGiven
    obtain ⟨_, source⟩ := readExtension_iff.mpr sourceGiven
    obtain ⟨_, enhancement⟩ := readExtension_iff.mpr enhancementGiven
    obtain ⟨_, indent⟩ := readIndent_iff.mpr h.indent
    obtain ⟨_, uses⟩ := readUses_iff.mpr usesGiven
    exact ⟨_, Outcome.bind_eq_ok.mpr ⟨_, rfl, Outcome.bind_eq_ok.mpr ⟨_, source,
      Outcome.bind_eq_ok.mpr ⟨_, enhancement, Outcome.bind_eq_ok.mpr ⟨_, indent,
        Outcome.bind_eq_ok.mpr ⟨_, uses, rfl⟩⟩⟩⟩⟩⟩

/-- **The settings that are taken over**: they are not too deep, and can be read. -/
theorem accept_iff {s : Settings} {custom : Entries} (hc : s.custom = .obj custom) :
    (∃ g, accept s = .ok g) ↔
      (∀ f, (s.get f).nesting ≤ maxNesting) ∧ Readable custom s.indentSize := by
  have deep : (SettingsField.all.any fun f => decide (maxNesting < (s.get f).nesting)) = true ↔
      ¬ ∀ f, (s.get f).nesting ≤ maxNesting := by
    rw [List.any_eq_true, not_forall]
    constructor
    · rintro ⟨f, -, h⟩
      exact ⟨f, Nat.not_le.mpr (of_decide_eq_true h)⟩
    · rintro ⟨f, h⟩
      exact ⟨f, by cases f <;> decide, decide_eq_true (Nat.not_le.mp h)⟩
  have entries : s.custom.asEntries = .ok custom := by
    rw [hc]
    rfl
  have filled : (∃ g, fill { s with custom := .obj custom } = .ok g) ↔ Readable custom s.indentSize :=
    fill_iff rfl
  rw [accept]
  by_cases flat : ∀ f, (s.get f).nesting ≤ maxNesting
  · rw [if_neg (mt deep.mp (not_not.mpr flat)), entries, ← filled]
    exact ⟨fun taken => ⟨flat, taken⟩, fun h => h.2⟩
  · rw [if_pos (deep.mpr flat)]
    constructor
    · rintro ⟨_, ⟨⟩⟩
    · exact fun h => absurd h.1 flat

/-! ## Where the checks part -/

theorem indentWarnings_eq_nil {v : Value} :
    indentWarnings v = [] ∧ (∀ b, v ≠ .bool b) ↔ ∃ n : Nat, v = .int n := by
  cases v with
  | int n =>
    by_cases negative : n < 0
    · have warned : indentWarnings (.int n) ≠ [] := by
        rw [indentWarnings]
        simp [Value.wholeNumber?, negative]
      refine ⟨fun h => absurd h.1 warned, ?_⟩
      rintro ⟨n, ⟨⟩⟩
      omega
    · have unwarned : indentWarnings (.int n) = [] := by
        rw [indentWarnings]
        simp [Value.wholeNumber?, negative]
      exact iff_of_true ⟨unwarned, by simp⟩ ⟨n.toNat, congrArg Value.int (by omega)⟩
  | bool b =>
    constructor
    · exact fun h => absurd rfl (h.2 b)
    · rintro ⟨_, ⟨⟩⟩
  | _ =>
    constructor
    · rintro ⟨⟨⟩, -⟩
    · rintro ⟨_, ⟨⟩⟩

theorem extensionWarnings_eq_nil {custom : Entries} {key standard : String}
    (json : ∀ v, custom.get? key = some v → v.IsJson)
    (default : gosuCustom.get? key = some (.str standard))
    (pointed : Text.startsWith "." standard = true) :
    extensionWarnings custom key = [] ∧ custom.get? key ≠ some .null ↔
      ∃ e, filledIn custom key = some (.str e) ∧ Text.startsWith "." e = true := by
  rw [filledIn, default, extensionWarnings, Entries.getD]
  cases h : custom.get? key with
  | none =>
    have absent : (none : Option Value) ≠ some .null := by simp
    exact iff_of_true ⟨rfl, absent⟩ ⟨standard, rfl, pointed⟩
  | some v =>
    simp only [Option.getD_some, Option.some_or]
    by_cases text : ∃ e, v = .str e
    · obtain ⟨e, rfl⟩ := text
      simp [Value.isNull, Value.display]
    · have shown := (Value.display_notPointed (json v h) (not_exists.mp text)).startsWith
      have absent : ¬ ∃ e, some v = some (Value.str e) ∧ Text.startsWith "." e = true := by
        rintro ⟨e, same, -⟩
        exact text ⟨e, Option.some.inj same⟩
      rw [shown, Bool.or_false]
      refine iff_of_false ?_ absent
      cases v <;> simp [Value.isNull]

theorem usesWarnings_eq_nil {custom : Entries} :
    usesWarnings custom = [] ↔ ∃ items, filledIn custom "uses" = some (.arr items) := by
  rw [filledIn, usesWarnings, Entries.getD]
  cases custom.get? "uses" with
  | none => exact iff_of_true rfl ⟨_, rfl⟩
  | some v => cases v <;> simp

/-- **A warning that is not about line endings means refusal.** Settings that can be written as JSON are
also refused without one in three cases: the indentation is a truth value, an extension is given as null,
or they are nested too deeply. -/
theorem accept_iff_warnings {s : Settings} {ending : String} {custom : Entries}
    (json : ∀ f, (s.get f).IsJson) (he : s.lineEnding = .str ending) (hc : s.custom = .obj custom) :
    (∃ g, accept s = .ok g) ↔
      (∃ ws, s.warnings (.str "gosu") = .ok ws ∧ ∀ w ∈ ws, IsAboutLines w) ∧
      (∀ b, s.indentSize ≠ .bool b) ∧
      (∀ key ∈ ["source_extension", "enhancement_extension"], custom.get? key ≠ some .null) ∧
      ∀ f, (s.get f).nesting ≤ maxNesting := by
  have members (key : String) (v : Value) (h : custom.get? key = some v) : v.IsJson := by
    have object : (Value.obj custom).IsJson := hc ▸ json .custom
    cases object with
    | obj _ _ items => exact items _ (Association.mem_of_lookup h)
  have source := extensionWarnings_eq_nil (members "source_extension") rfl (by decide)
  have enhancement := extensionWarnings_eq_nil (members "enhancement_extension") rfl (by decide)
  rw [accept_iff hc, forall_isAboutLines_iff he hc]
  constructor
  · rintro ⟨flat, h⟩
    obtain ⟨unwarned, whole⟩ := indentWarnings_eq_nil.mpr h.indent
    obtain ⟨unwarned', given⟩ := source.mpr h.source
    obtain ⟨unwarned'', given'⟩ := enhancement.mpr h.enhancement
    exact ⟨⟨unwarned, unwarned', unwarned'', usesWarnings_eq_nil.mpr h.uses⟩, whole,
      List.forall_mem_cons.mpr ⟨given, by simpa using given'⟩, flat⟩
  · rintro ⟨⟨unwarned, unwarned', unwarned'', uses⟩, whole, given, flat⟩
    obtain ⟨first, second⟩ := List.forall_mem_cons.mp given
    exact ⟨flat, {
      source := source.mp ⟨unwarned', first⟩
      enhancement := enhancement.mp ⟨unwarned'', second _ List.mem_cons_self⟩
      indent := indentWarnings_eq_nil.mp ⟨unwarned, whole⟩
      uses := usesWarnings_eq_nil.mp uses }⟩

theorem isJson_default (f : SettingsField) : (Settings.default.get f).IsJson := by
  cases f with
  | outputDir => exact .null
  | indentSize => exact .int 4
  | useTabs => exact .bool false
  | lineEnding => exact .str "\n"
  | docComments => exact .bool true
  | author => exact .null
  | custom => exact .obj [] List.nodup_nil nofun

theorem isJson_set {s : Settings} (json : ∀ f, (s.get f).IsJson) {v : Value} (hv : v.IsJson)
    (field f : SettingsField) : ((s.set v field).get f).IsJson := by
  rw [get_set]
  split
  · exact hv
  · exact json f

/-- Settings with a line ending of old. -/
def oddLines : Settings :=
  (Settings.default.set (.str "\r") .lineEnding).set (.obj [("source_extension", .str ".gosu")])
    .custom

theorem accept_iff_warnings_oddLines :
    (∀ f, (oddLines.get f).IsJson) ∧ oddLines.lineEnding = .str "\r" ∧
    oddLines.custom = .obj [("source_extension", .str ".gosu")] ∧
    oddLines.warnings (.str "gosu") = .ok (lineWarnings "\r") ∧
    ∃ g, accept oddLines = .ok g := by
  have json : ∀ f, (oddLines.get f).IsJson :=
    isJson_set (isJson_set isJson_default (.str "\r") .lineEnding)
      (.obj _ (by decide) fun entry h => List.mem_singleton.mp h ▸ .str ".gosu") .custom
  have warned : oddLines.warnings (.str "gosu") = .ok (lineWarnings "\r") := rfl
  refine ⟨json, rfl, rfl, warned, (accept_iff_warnings json rfl rfl).mpr ?_⟩
  exact ⟨⟨_, warned, fun _ => isAboutLines_lineWarnings⟩, nofun, by decide,
    fun f => by cases f <;> decide⟩

/-- A truth value in the place of the indentation is a number to the one check and none to the other. -/
theorem truth_value_unwarned :
    (∀ f, ((Settings.default.set (.bool true) .indentSize).get f).IsJson) ∧
    (Settings.default.set (.bool true) .indentSize).warnings (.str "gosu") = .ok [] ∧
    accept (Settings.default.set (.bool true) .indentSize) =
      .error (.setting "indent_size" (.bool true)) :=
  ⟨isJson_set isJson_default (.bool true) .indentSize, rfl, rfl⟩

end GosuSettings

end GosuForge
