import Frontmark.Proofs.Except
import Frontmark.Proofs.Settings.Tables
import Frontmark.Settings.Layers
import Mathlib.Data.List.Forall2

/-! Which of several layers of settings counts.

Files of truth values and overrides are taken, in any order. Main statement: the last override of a setting holds;
where there is none, the last file that assigns it; where there is none either, the default (`load_eq`). -/

set_option autoImplicit false

namespace Frontmark.Settings

open Frontmark.Text (lowerCase)

/-- The settings that there are. -/
inductive Switch where
  | validateHeader
  | smart
  | strikethrough
  | table
  | autolink
  | tasklist
  | footnotes
  | superscript
  deriving DecidableEq, Repr

namespace Switch

def all : List Switch :=
  [validateHeader, smart, strikethrough, table, autolink, tasklist, footnotes, superscript]

def path : Switch → List String
  | validateHeader => ["header", "validate_yaml"]
  | smart => ["parser", "smart"]
  | strikethrough => ["parser", "extensions", "strikethrough"]
  | table => ["parser", "extensions", "table"]
  | autolink => ["parser", "extensions", "autolink"]
  | tasklist => ["parser", "extensions", "tasklist"]
  | footnotes => ["parser", "extensions", "footnotes"]
  | superscript => ["parser", "extensions", "superscript"]

def key (s : Switch) : Key :=
  ⟨s.path.headD "", s.path.tail.map .field⟩

/-- The key as it is written. -/
def dotted (s : Switch) : String :=
  ".".intercalate s.path

def get (o : Options) : Switch → Bool
  | validateHeader => o.validateHeader
  | smart => o.smart
  | strikethrough => o.strikethrough
  | table => o.table
  | autolink => o.autolink
  | tasklist => o.tasklist
  | footnotes => o.footnotes
  | superscript => o.superscript

theorem mem_all (s : Switch) : s ∈ all := by
  cases s <;> decide

theorem eq_of_path_start {s s' : Switch} (inside : s.path <+: s'.path) : s = s' :=
  (by decide +kernel : ∀ s ∈ all, ∀ s' ∈ all, s.path <+: s'.path → s = s') s s.mem_all s' s'.mem_all inside

theorem key_inj {s s' : Switch} (same : s.key = s'.key) : s = s' :=
  (by decide +kernel : ∀ s ∈ all, ∀ s' ∈ all, s.key = s'.key → s = s') s s.mem_all s' s'.mem_all same

theorem read_dotted (s : Switch) : Key.read s.dotted = .ok s.key := by
  cases s <;> rfl

theorem path_ne_nil (s : Switch) : s.path ≠ [] := by
  cases s <;> simp [path]

theorem lowerCase_of_mem {s : Switch} {name : String} (member : name ∈ s.path) : lowerCase name = name :=
  (by decide +kernel : ∀ s ∈ all, ∀ name ∈ s.path, lowerCase name = name) s s.mem_all name member

theorem read_of_mem {s : Switch} {name : String} (member : name ∈ s.path) : Key.read name = .ok ⟨name, []⟩ :=
  eq_ok_of_toOption <|
    (by decide +kernel : ∀ s ∈ all, ∀ name ∈ s.path, (Key.read name).toOption = some ⟨name, []⟩) s s.mem_all name member

end Switch

/-- The value that is assigned last. -/
def last? (s : Switch) (given : List (Switch × Bool)) : Option Bool :=
  given.reverse.lookup s

section Files

/-- Whether there are settings below a path. -/
def isTablePath (path : List String) : Bool :=
  Switch.all.any fun s => path.isPrefixOf s.path && path ≠ s.path

mutual

/-- What a value assigns that stands at a path in a file: truth values to settings, in tables on the way to them. -/
def assigned? (path : List String) : Toml.Value → Option (List (Switch × Bool))
  | .boolean b => (Switch.all.find? (·.path = path)).map fun s => [(s, b)]
  | .table fields => if isTablePath path then assignedAmong? path fields else none
  | .placed _ _ v => assigned? path v
  | _ => none

def assignedAmong? (path : List String) : List (String × Toml.Value) → Option (List (Switch × Bool))
  | [] => some []
  | (name, v) :: fields => do return (← assigned? (path ++ [name]) v) ++ (← assignedAmong? path fields)

end

/-- What a file with this text assigns, if it does nothing else. -/
def assignedBy? (text : String) : Option (List (Switch × Bool)) :=
  match Toml.read text.toList with
  | .ok (.table fields) => assignedAmong? [] fields
  | _ => none

mutual

/-- What a value assigns is at its path, or below it. -/
theorem prefix_of_assigned {path : List String} : (v : Toml.Value) → {given : List (Switch × Bool)} →
    assigned? path v = some given → ∀ x ∈ given, path <+: x.1.path
  | .boolean b, given, assigns => by
    obtain ⟨s, here, rfl⟩ := Option.map_eq_some_iff.mp assigns
    have same : s.path = path := by simpa using List.find?_some here
    simp [same]
  | .table fields, given, assigns => by
    rw [assigned?, Option.ite_none_right_eq_some] at assigns
    exact prefix_of_assignedAmong fields assigns.2
  | .placed _ _ v, given, assigns => prefix_of_assigned v assigns

theorem prefix_of_assignedAmong {path : List String} : (fields : List (String × Toml.Value)) →
    {given : List (Switch × Bool)} → assignedAmong? path fields = some given → ∀ x ∈ given, path <+: x.1.path
  | [], given, assigns => by
    cases assigns
    simp
  | (name, v) :: fields, given, assigns => by
    simp only [assignedAmong?, Option.bind_eq_bind, Option.bind_eq_some_iff] at assigns
    obtain ⟨first, here, rest, below, ⟨⟩⟩ := assigns
    intro x member
    rcases List.mem_append.mp member with member | member
    · exact (List.prefix_append path [name]).trans (prefix_of_assigned v here x member)
    · exact prefix_of_assignedAmong fields below x member

end

/-- Values are assigned on the way to settings alone. -/
theorem exists_of_assigned {path : List String} : (v : Toml.Value) → {given : List (Switch × Bool)} →
    assigned? path v = some given → ∃ s : Switch, path <+: s.path
  | .boolean b, given, assigns => by
    obtain ⟨s, here, rfl⟩ := Option.map_eq_some_iff.mp assigns
    have same : s.path = path := by simpa using List.find?_some here
    exact ⟨s, same ▸ List.prefix_refl _⟩
  | .table fields, given, assigns => by
    rw [assigned?, Option.ite_none_right_eq_some] at assigns
    obtain ⟨s, -, way⟩ := List.any_eq_true.mp assigns.1
    rw [Bool.and_eq_true, List.isPrefixOf_iff_prefix] at way
    exact ⟨s, way.1⟩
  | .placed _ _ v, given, assigns => exists_of_assigned v assigns

theorem last?_append (s : Switch) (first rest : List (Switch × Bool)) :
    last? s (first ++ rest) = (last? s rest).or (last? s first) := by
  rw [last?, List.reverse_append, List.lookup_append]
  rfl

theorem last?_eq_none {s : Switch} {given : List (Switch × Bool)} (other : ∀ x ∈ given, x.1 ≠ s) : last? s given = none := by
  rw [last?, List.lookup_eq_none_iff]
  intro x member
  exact bne_iff_ne.mpr (other x (List.mem_reverse.mp member)).symm

variable {s : Switch} {file : String}

mutual

/-- A value from a file that is laid over another one changes what it assigns, and nothing else. -/
theorem find?_lay {path rest : List String} (whole : s.path = path ++ rest) : (v : Toml.Value) →
    {given : List (Switch × Bool)} → {target : Value} → {b : Bool} → assigned? path v = some given → target.find? rest = some (.boolean b) →
    ((Value.ofToml file v).lay target).find? rest = some (.boolean ((last? s given).getD b))
  | .boolean b', given, target, b, assigns, there => by
    obtain ⟨s', here, rfl⟩ := Option.map_eq_some_iff.mp assigns
    have same : s'.path = path := by simpa using List.find?_some here
    obtain rfl : s' = s := Switch.eq_of_path_start (by rw [whole, same]; exact List.prefix_append ..)
    obtain rfl : rest = [] := by simpa [same] using whole
    simp [Value.ofToml, Value.lay, Value.find?, last?]
  | .table fields, given, target, b, assigns, there => by
    rw [assigned?, Option.ite_none_right_eq_some] at assigns
    have inside : rest ≠ [] := by
      rintro rfl
      obtain ⟨s', -, way⟩ := List.any_eq_true.mp assigns.1
      rw [Bool.and_eq_true, List.isPrefixOf_iff_prefix, ← List.append_nil path, ← whole, decide_eq_true_iff] at way
      exact way.2 (congrArg _ (Switch.eq_of_path_start way.1))
    exact find?_setFields whole inside fields assigns.2 there
  | .placed _ _ v, given, target, b, assigns, there => find?_lay whole v assigns there

theorem find?_setFields {path rest : List String} (whole : s.path = path ++ rest) (inside : rest ≠ []) :
    (fields : List (String × Toml.Value)) → {given : List (Switch × Bool)} → {target : Value} → {b : Bool} → assignedAmong? path fields = some given →
    target.find? rest = some (.boolean b) →
    (Value.setFields (Value.fieldsOfToml file fields) target).find? rest = some (.boolean ((last? s given).getD b))
  | [], given, target, b, assigns, there => by
    cases assigns
    exact there
  | (name, v) :: fields, given, target, b, assigns, there => by
    simp only [assignedAmong?, Option.bind_eq_bind, Option.bind_eq_some_iff] at assigns
    obtain ⟨first, here, others, below, ⟨⟩⟩ := assigns
    obtain ⟨other, rest, rfl⟩ := List.exists_cons_of_ne_nil inside
    have lower : lowerCase name = name := by
      obtain ⟨s', way⟩ := exists_of_assigned v here
      exact Switch.lowerCase_of_mem (way.subset (by simp))
    have step : (Value.setField name (Value.ofToml file v) target).find? (other :: rest) =
        some (.boolean ((last? s first).getD b)) := by
      by_cases same : other = name
      · subst same
        obtain ⟨_, _, old, rfl, looked, inner⟩ := Value.find?_cons_eq_some.mp there
        rw [Value.find?_setField_same lower (Value.find?_cons_eq_some.mpr ⟨_, _, old, rfl, looked, rfl⟩)]
        exact find?_lay (by simpa using whole) v here inner
      · have none : last? s first = none := by
          refine last?_eq_none fun x member aim => same ?_
          have way := prefix_of_assigned v here x member
          rw [aim, whole, List.prefix_append_right_inj] at way
          exact (List.cons_prefix_cons.mp way).1.symm
        rw [none]
        exact Value.find?_setField_of_ne lower same there
    rw [Value.fieldsOfToml, Value.setFields, find?_setFields whole inside fields below step, last?_append]
    cases last? s others <;> rfl

end

theorem exists_of_assignedAmong {fields : List (String × Toml.Value)} {given : List (Switch × Bool)}
    (assigns : assignedAmong? [] fields = some given) : ∀ field ∈ fields, ∃ s : Switch, field.1 ∈ s.path := by
  induction fields generalizing given with
  | nil => simp
  | cons field fields ih =>
    obtain ⟨name, v⟩ := field
    simp only [assignedAmong?, Option.bind_eq_bind, Option.bind_eq_some_iff] at assigns
    obtain ⟨first, here, others, below, -⟩ := assigns
    obtain ⟨s, way⟩ := exists_of_assigned v here
    exact List.forall_mem_cons.mpr ⟨⟨s, way.subset (by simp)⟩, ih below⟩

end Files

section Laying

/-- Settings that have these values, among others perhaps. -/
def Value.Has (root : Value) (g : Switch → Bool) : Prop :=
  ∀ s, root.find? s.path = some (.boolean (g s))

def laid (given : List (Switch × Bool)) (g : Switch → Bool) (s : Switch) : Bool :=
  (last? s given).getD (g s)

theorem laid_append (first rest : List (Switch × Bool)) (g : Switch → Bool) :
    laid (first ++ rest) g = laid rest (laid first g) := by
  funext s
  rw [laid, laid, laid, last?_append]
  cases last? s rest <;> rfl

variable {g : Switch → Bool} {root : Value} {given : List (Switch × Bool)}

/-- The outermost names are no keys with several steps, so a file is laid over like any other table. -/
theorem layText_eq {file text : String} {fields : List (String × Toml.Value)}
    (parsed : Toml.read text.toList = .ok (.table fields)) (named : ∀ field ∈ fields, ∃ s : Switch, field.1 ∈ s.path) :
    layText file text root =
      .ok (Value.setFields (Value.fieldsOfToml (String.intercalate "/" (plainSteps file)) fields) root) := by
  simp only [layText, parsed]
  refine congrArg Except.ok ?_
  clear parsed
  induction fields generalizing root with
  | nil => rfl
  | cons field fields ih =>
    obtain ⟨⟨s, member⟩, others⟩ := List.forall_mem_cons.mp named
    rw [List.foldl_cons, ih others, Value.fieldsOfToml, Value.setFields]
    simp only [Switch.read_of_mem member]
    rfl

theorem layText_has (file : String) {text : String} (has : root.Has g) (assigns : assignedBy? text = some given) :
    ∃ after, layText file text root = .ok after ∧ after.Has (laid given g) := by
  unfold assignedBy? at assigns
  split at assigns
  · next fields parsed =>
    exact ⟨_, layText_eq parsed (exists_of_assignedAmong assigns), fun s =>
      find?_setFields (List.nil_append _).symm s.path_ne_nil fields assigns (has s)⟩
  · cases assigns

theorem layFile_has {read : FileReader} {name path text : String} {content : List UInt8} (has : root.Has g)
    (found : findFile read name = some (path, content)) (decoded : Text.Utf8.decode? content = some text)
    (assigns : assignedBy? text = some given) :
    ∃ after, layFile read name root = .ok after ∧ after.Has (laid given g) := by
  obtain ⟨after, laid, has⟩ := layText_has path has assigns
  exact ⟨after, by simp only [layFile, found, decoded, laid], has⟩

theorem set_has (has : root.Has g) (s : Switch) (b : Bool) : (root.set s.key (.boolean b)).Has (laid [(s, b)] g) := by
  intro s'
  obtain ⟨first, steps, path⟩ := List.exists_cons_of_ne_nil s.path_ne_nil
  have lower : ∀ n ∈ first :: steps, lowerCase n = n := fun n member => Switch.lowerCase_of_mem (path ▸ member)
  have key : s.key = ⟨first, steps.map .field⟩ := by simp [Switch.key, path]
  rw [Value.set, key]
  by_cases same : s = s'
  · subst same
    rw [path, Value.find?_setFrom_same lower]
    simp [laid, last?]
  · have untouched : laid [(s, b)] g s' = g s' := by simp [laid, last?, List.lookup_cons, beq_eq_false_iff_ne.mpr (Ne.symm same)]
    rw [untouched]
    refine Value.find?_setFrom_of_ne lower (fun inside => ?_) (fun inside => ?_) (has s') <;> rw [← path] at inside
    · exact same (Switch.eq_of_path_start inside)
    · exact same (Switch.eq_of_path_start inside).symm

/-- Overrides that are passed over are overridden again later. -/
theorem layOverrides_has (has : root.Has g) :
    (layOverrides (given.map fun x => (x.1.key, .boolean x.2)) root).Has (laid given g) := by
  induction given generalizing root g with
  | nil => exact has
  | cons x given ih =>
    obtain ⟨s, b⟩ := x
    have parts : laid ((s, b) :: given) g = laid given (laid [(s, b)] g) := laid_append [(s, b)] given g
    rw [List.map_cons, layOverrides]
    split
    case isFalse => exact parts ▸ ih (set_has has s b)
    case isTrue repeated =>
      have again : ∃ b', (s, b') ∈ given := by
        simp only [List.any_map, List.any_eq_true, Function.comp_apply, decide_eq_true_eq] at repeated
        obtain ⟨⟨s', b'⟩, member, same⟩ := repeated
        exact ⟨b', Switch.key_inj same ▸ member⟩
      have same : laid given (laid [(s, b)] g) = laid given g := by
        funext s'
        by_cases here : s' = s
        · subst here
          obtain ⟨b', member⟩ := again
          cases found : last? s' given with
          | none => simpa using List.lookup_eq_none_iff.mp found (s', b') (List.mem_reverse.mpr member)
          | some b' => simp [laid, found]
        · simp [laid, last?, List.lookup_cons, beq_eq_false_iff_ne.mpr here]
      exact parts ▸ same ▸ ih has

end Laying

section Reading

def Options.ofSwitches (g : Switch → Bool) : Options where
  validateHeader := g .validateHeader
  smart := g .smart
  strikethrough := g .strikethrough
  table := g .table
  autolink := g .autolink
  tasklist := g .tasklist
  footnotes := g .footnotes
  superscript := g .superscript

theorem get_ofSwitches (g : Switch → Bool) (s : Switch) : s.get (Options.ofSwitches g) = g s := by
  cases s <;> rfl

/-- A value at a path that holds the settings below it. -/
def Value.HasBelow (path : List String) (v : Value) (g : Switch → Bool) : Prop :=
  ∀ s rest, Switch.path s = path ++ rest → v.find? rest = some (.boolean (g s))

variable {g : Switch → Bool} {path : List String} {v : Value}

theorem boolean_eq (s : Switch) (has : v.HasBelow s.path g) : boolean v = .ok (g s) := by
  obtain ⟨⟩ := has s [] (List.append_nil _).symm
  rfl

/-- Where settings are, a record is read, and each of its fields from what is there. -/
theorem exists_record (has : v.HasBelow path g) {s : Switch} {name : String} {rest : List String}
    (way : s.path = path ++ name :: rest) (record : String) (size : Nat) :
    ∃ r, Record.ofValue record size v = .ok r ∧
      ∀ (s : Switch) {name : String} {rest : List String}, s.path = path ++ name :: rest →
        ∀ (place : Nat) {α : Type} {read : Value → Reading α} {x : α},
          (∀ inner : Value, inner.HasBelow (path ++ [name]) g → read inner = .ok x) →
            r.field? place name read = .ok (some x) := by
  obtain ⟨file, fields, _, rfl, -, -⟩ := Value.find?_cons_eq_some.mp (has s _ way)
  refine ⟨⟨record, size, .named fields⟩, rfl, ?_⟩
  intro s name rest way place α read x reads
  obtain ⟨_, _, inner, ⟨⟩, looked, -⟩ := Value.find?_cons_eq_some.mp (has s _ way)
  have below : inner.HasBelow (path ++ [name]) g := by
    intro s' rest' way'
    obtain ⟨_, _, _, ⟨⟩, looked', inside⟩ := Value.find?_cons_eq_some.mp (has s' (name :: rest') (by simpa using way'))
    obtain ⟨⟩ := looked.symm.trans looked'
    exact inside
  simp only [Record.field?, looked, reads inner below]
  rfl

theorem extensions_eq (o : Options) (has : v.HasBelow ["parser", "extensions"] g) :
    extensions o v =
      .ok { o with
        strikethrough := g .strikethrough
        table := g .table
        autolink := g .autolink
        tasklist := g .tasklist
        footnotes := g .footnotes
        superscript := g .superscript } := by
  obtain ⟨r, made, field⟩ := exists_record has (s := .table) rfl "ExtensionsConfig" 6
  simp only [extensions, made, bind, Except.bind, field .strikethrough rfl 0 fun _ => boolean_eq .strikethrough,
    field .table rfl 1 fun _ => boolean_eq .table, field .autolink rfl 2 fun _ => boolean_eq .autolink,
    field .tasklist rfl 3 fun _ => boolean_eq .tasklist, field .footnotes rfl 4 fun _ => boolean_eq .footnotes,
    field .superscript rfl 5 fun _ => boolean_eq .superscript]
  rfl

theorem parser_eq (o : Options) (has : v.HasBelow ["parser"] g) :
    parser o v = .ok { Options.ofSwitches g with validateHeader := o.validateHeader } := by
  obtain ⟨r, made, field⟩ := exists_record has (s := .smart) rfl "ParserConfig" 2
  simp only [parser, made, bind, Except.bind, field .smart rfl 0 fun _ => boolean_eq .smart,
    field .table rfl 1 fun _ => extensions_eq o]
  rfl

theorem header_eq (o : Options) (has : v.HasBelow ["header"] g) :
    header o v = .ok { o with validateHeader := g .validateHeader } := by
  obtain ⟨r, made, field⟩ := exists_record has (s := .validateHeader) rfl "HeaderConfig" 1
  simp only [header, made, bind, Except.bind, field .validateHeader rfl 0 fun _ => boolean_eq .validateHeader]
  rfl

/-- Every setting goes into the option of its own. -/
theorem options_eq {root : Value} (has : root.Has g) : options root = .ok (Options.ofSwitches g) := by
  have below : root.HasBelow [] g := by
    rintro s _ rfl
    exact has s
  obtain ⟨r, made, field⟩ := exists_record below (s := .smart) rfl "MdexConfig" 2
  simp only [options, made, bind, Except.bind, field .smart rfl 0 fun _ => parser_eq {}, required,
    field .validateHeader rfl 1 fun _ => header_eq _]
  rfl

theorem defaults_has : defaults.Has fun s => s.get {} := by
  intro s
  cases s <;> rfl

end Reading

/-- What a layer gives. -/
structure Given where
  assigned : List (Switch × Bool) := []
  overrides : List (Switch × Bool) := []

/-- The layers that are files of settings, which can be missing if they need not be there, and overrides of settings. -/
inductive Layer.Gives (read : FileReader) : Layer → Given → Prop
  | file {name path text : String} {content : List UInt8} {assigned : List (Switch × Bool)}
      (found : findFile read name = some (path, content)) (decoded : Text.Utf8.decode? content = some text)
      (assigns : assignedBy? text = some assigned) : Gives read (.file name) { assigned }
  | optionalFile {name path text : String} {content : List UInt8} {assigned : List (Switch × Bool)}
      (found : findFile read name = some (path, content)) (decoded : Text.Utf8.decode? content = some text)
      (assigns : assignedBy? text = some assigned) : Gives read (.optionalFile name) { assigned }
  | missing {name : String} (missing : findFile read name = none) : Gives read (.optionalFile name) {}
  | override (s : Switch) (b : Bool) : Gives read (.override s.dotted (.boolean b)) { overrides := [(s, b)] }

section Layers

variable {read : FileReader} {layers : List Layer} {given : List Given}

theorem layFiles_has (told : List.Forall₂ (Layer.Gives read) layers given) {root : Value} {g : Switch → Bool}
    (has : root.Has g) :
    ∃ after, layFiles read layers root = .ok after ∧ after.Has (laid (given.flatMap Given.assigned) g) := by
  induction told generalizing root g with
  | nil => exact ⟨root, rfl, has⟩
  | cons first _ ih =>
    rw [List.flatMap_cons, laid_append]
    cases first with
    | file found decoded assigns =>
      obtain ⟨after, laid, has⟩ := layFile_has has found decoded assigns
      simp only [layFiles, laid, bind, Except.bind]
      exact ih has
    | optionalFile found decoded assigns =>
      obtain ⟨after, laid, has⟩ := layFile_has has found decoded assigns
      simp only [layFiles, laid]
      exact ih has
    | missing missing =>
      simp only [layFiles, layFile, missing]
      exact ih has
    | override s b => exact ih has

theorem overrides_eq (told : List.Forall₂ (Layer.Gives read) layers given) :
    overrides layers = .ok ((given.flatMap Given.overrides).map fun x => (x.1.key, .boolean x.2)) := by
  induction told with
  | nil => rfl
  | cons first _ ih =>
    cases first with
    | file | optionalFile | missing => exact ih
    | override s b =>
      simp only [overrides, s.read_dotted, ih]
      rfl

/-- Settings are read from any layers of files and overrides: an override before a file, a later one before an earlier
one, and the default if there is none of them. -/
theorem load_eq (told : List.Forall₂ (Layer.Gives read) layers given) :
    ∃ d o, options defaults = .ok d ∧ load read layers = .ok o ∧
      ∀ s, s.get o =
        ((last? s (given.flatMap Given.overrides)).or (last? s (given.flatMap Given.assigned))).getD (s.get d) := by
  obtain ⟨root, laidFiles, has⟩ := layFiles_has told defaults_has
  have loaded : load read layers = .ok (Options.ofSwitches
      (laid (given.flatMap Given.overrides) (laid (given.flatMap Given.assigned) fun s => s.get {}))) := by
    simp only [load, overrides_eq told, laidFiles, bind, Except.bind]
    exact options_eq (layOverrides_has has)
  refine ⟨_, _, options_eq defaults_has, loaded, fun s => ?_⟩
  rw [get_ofSwitches, get_ofSwitches, laid, laid]
  cases last? s (given.flatMap Given.overrides) <;> rfl

/-- Overrides before, between and after two files, the second of which changes one of two fields of a table. -/
theorem load_eq_between :
    let first := "[parser.extensions]\ntable = true\nautolink = true\n"
    let second := "parser.smart = true\nparser.extensions.table = false\n[header]\nvalidate_yaml = false\n"
    let read := Folder.read (.ofFiles [("mdex.toml", first.toUTF8.toList), ("more.toml", second.toUTF8.toList)])
    let layers : List Layer := [.override "parser.smart" (.boolean false), .optionalFile "mdex.toml",
      .override "header.validate_yaml" (.boolean false), .optionalFile "none.toml", .file "more",
      .override "header.validate_yaml" (.boolean true)]
    let given : List Given := [⟨[], [(.smart, false)]⟩, ⟨[(.table, true), (.autolink, true)], []⟩,
      ⟨[], [(.validateHeader, false)]⟩, ⟨[], []⟩, ⟨[(.smart, true), (.table, false), (.validateHeader, false)], []⟩,
      ⟨[], [(.validateHeader, true)]⟩]
    List.Forall₂ (Layer.Gives read) layers given ∧
      ∃ d o, options defaults = .ok d ∧ load read layers = .ok o ∧
        ∀ s, s.get o =
          ((last? s (given.flatMap Given.overrides)).or (last? s (given.flatMap Given.assigned))).getD (s.get d) := by
  intro first second read layers given
  have firstFile : Layer.Gives read (.optionalFile "mdex.toml") ⟨[(.table, true), (.autolink, true)], []⟩ :=
    .optionalFile (show findFile read "mdex.toml" = some ("mdex.toml", first.toUTF8.toList) by decide +kernel)
      (show Text.Utf8.decode? first.toUTF8.toList = some first by decide +kernel) (by decide +kernel)
  have secondFile : Layer.Gives read (.file "more") ⟨[(.smart, true), (.table, false), (.validateHeader, false)], []⟩ :=
    .file (show findFile read "more" = some ("more.toml", second.toUTF8.toList) by decide +kernel)
      (show Text.Utf8.decode? second.toUTF8.toList = some second by decide +kernel) (by decide +kernel)
  have told : List.Forall₂ (Layer.Gives read) layers given :=
    .cons (.override .smart false) (.cons firstFile (.cons (.override .validateHeader false)
      (.cons (.missing (by decide +kernel)) (.cons secondFile (.cons (.override .validateHeader true) .nil)))))
  exact ⟨told, load_eq told⟩

end Layers

end Frontmark.Settings
