import Mathlib.Data.List.Forall2
import Stencil.CommandLine.Context
import Stencil.Proofs.Sink.Utf8
import Stencil.Proofs.Table
import Stencil.Proofs.Text.Blank

/-! Laws of template contexts: options override the values of a configuration file, the last one for
a name winning, and the first option that is none is refused. -/

namespace Stencil

namespace Context

/-- An option sets a name to a text: they are what stands before and behind its first equals sign,
without the blanks around them, and the name is not empty. -/
def Sets (item name text : String) : Prop :=
  ∃ before after, item = before ++ "=" ++ after ∧ '=' ∉ before.toList ∧ strip before = name ∧
    name ≠ "" ∧ strip after = text

/-- An option is invalid: it has no equals sign, or at most blanks before its first one. -/
def Invalid (item : String) : Prop :=
  '=' ∉ item.toList ∨ ∃ before after, item = before ++ "=" ++ after ∧ '=' ∉ before.toList ∧
    ∀ c ∈ before.toList, isBlank c = true

/-- A text without an equals sign before another one is what stands before the first of them. -/
theorem splitOption_append {before : String} (after : String) (plain : '=' ∉ before.toList) :
    splitOption (before ++ "=" ++ after) = some (before, after) := by
  have chars : (before ++ "=" ++ after).toList = before.toList ++ '=' :: after.toList := by simp
  -- The walk passes all characters before the first equals sign.
  have other : ∀ c ∈ before.toList, (c != '=') = true := by
    intro c member
    simpa using fun same : c = '=' => plain (same ▸ member)
  unfold splitOption
  simp only [chars, List.dropWhile_append_of_pos other, List.takeWhile_append_of_pos other]
  simp

/-- A text without an equals sign is not cut. -/
theorem splitOption_none {item : String} (plain : '=' ∉ item.toList) : splitOption item = none := by
  have all : item.toList.dropWhile (· != '=') = [] := List.dropWhile_eq_nil_iff.2 fun c member => by
    simpa using fun same : c = '=' => plain (same ▸ member)
  simp [splitOption, all]

variable (value : String → Datum)

/-- An option that sets a name is read as the name and the value of its text. -/
theorem readOption_sets {item name text : String} (sets : Sets item name text) :
    readOption value item = .ok (name, value text) := by
  -- A name that is not empty is not blank.
  obtain ⟨before, after, rfl, plain, rfl, filled, rfl⟩ := sets
  have solid : isBlankText before = false := by
    rw [← Bool.not_eq_true, isBlankText, List.all_eq_true]
    exact fun blank => filled (strip_eq_empty_iff.2 blank)
  simp [readOption, splitOption_append after plain, solid]

/-- An invalid option is refused. -/
theorem readOption_invalid {item : String} (invalid : Invalid item) :
    readOption value item = .error (.badValue (.badOption item)) := by
  -- Either there is no equals sign, or the name before it is blank.
  rcases invalid with plain | ⟨before, after, rfl, plain, blank⟩
  · simp [readOption, splitOption_none plain]
  · have empty : isBlankText before = true := List.all_eq_true.2 blank
    simp [readOption, splitOption_append after plain, empty]

/-- Every option is invalid or sets a name. -/
theorem sets_or_invalid (item : String) : Invalid item ∨ ∃ name text, Sets item name text := by
  -- An equals sign cuts the option, which then sets a name unless only blanks stand before it.
  by_cases cut : '=' ∈ item.toList
  · obtain ⟨front, back, chars, plain⟩ := List.eq_append_cons_of_mem cut
    have whole : item = String.ofList front ++ "=" ++ String.ofList back := by
      rw [← String.toList_inj]
      simpa using chars
    by_cases blank : ∀ c ∈ front, isBlank c = true
    · exact Or.inl (Or.inr ⟨_, _, whole, by simpa using plain, by simpa using blank⟩)
    · refine Or.inr ⟨_, _, _, _, whole, by simpa using plain, rfl, fun empty => blank ?_, rfl⟩
      simpa using strip_eq_empty_iff.1 empty
  · exact Or.inl (Or.inl cut)

/-- An option that sets a name is not invalid. -/
theorem Sets.valid {item name text : String} (sets : Sets item name text) : ¬Invalid item := by
  -- It would be read and refused.
  intro invalid
  have read := readOption_sets Datum.text sets
  rw [readOption_invalid Datum.text invalid] at read
  cases read

/-- An option is invalid exactly if it is not read. -/
theorem invalid_iff {item : String} : Invalid item ↔ (readOption Datum.text item).isOk = false := by
  constructor
  · intro invalid
    rw [readOption_invalid Datum.text invalid]
    rfl
  · intro refused
    -- An option that sets a name is read.
    refine (sets_or_invalid item).resolve_right ?_
    rintro ⟨name, text, sets⟩
    rw [readOption_sets Datum.text sets] at refused
    cases refused

instance (item : String) : Decidable (Invalid item) := decidable_of_iff _ invalid_iff.symm

/-- The name and the text that an option sets, unless it is invalid. -/
def settingOf (item : String) : String × String :=
  match splitOption item with
  | none => ("", "")
  | some (before, after) => (strip before, strip after)

/-- An option sets what is read off it. -/
theorem Sets.settingOf_eq {item name text : String} (sets : Sets item name text) :
    settingOf item = (name, text) := by
  obtain ⟨before, after, rfl, plain, rfl, _, rfl⟩ := sets
  simp [settingOf, splitOption_append after plain]

/-- A valid option sets what is read off it. -/
theorem sets_settingOf {item : String} (valid : ¬Invalid item) :
    Sets item (settingOf item).1 (settingOf item).2 := by
  obtain ⟨name, text, sets⟩ := (sets_or_invalid item).resolve_left valid
  rw [sets.settingOf_eq]
  exact sets

/-- The names that options set, with the values of their texts. -/
def pairsOf (value : String → Datum) (options : List String) : List (String × Datum) :=
  options.map fun item => ((settingOf item).1, value (settingOf item).2)

/-- A name is among those that valid options set exactly if one of them sets it. -/
theorem mem_names_iff {options : List String} (valid : ∀ item ∈ options, ¬Invalid item)
    {name : String} :
    name ∈ (pairsOf value options).map Prod.fst ↔
      ∃ item ∈ options, ∃ text, Sets item name text := by
  simp only [pairsOf, List.map_map, List.mem_map, Function.comp_apply]
  -- The name of a valid option is the one that it sets.
  constructor
  · rintro ⟨item, member, rfl⟩
    exact ⟨item, member, _, sets_settingOf (valid item member)⟩
  · rintro ⟨item, member, text, sets⟩
    exact ⟨item, member, by rw [sets.settingOf_eq]⟩

/-- Valid options store what they set, one after the other. -/
theorem withOptions_valid (values : Values) {options : List String}
    (valid : ∀ item ∈ options, ¬Invalid item) :
    withOptions value values options = .ok (values.putAll (pairsOf value options)) := by
  -- Each option is read as what it sets, and stored before the others.
  induction options generalizing values with
  | nil => rfl
  | cons item rest ih =>
    have read := readOption_sets value (sets_settingOf (valid item List.mem_cons_self))
    have later := ih (values.put (settingOf item).1 (value (settingOf item).2)) fun other member =>
      valid other (List.mem_cons_of_mem _ member)
    simp only [withOptions, read, Bind.bind, Except.bind]
    exact later

/-- The first invalid option is refused, whatever values there are. -/
theorem withOptions_invalid (values : Values) {front : List String} {item : String}
    (valid : ∀ other ∈ front, ¬Invalid other) (invalid : Invalid item) (back : List String) :
    withOptions value values (front ++ item :: back) = .error (.badValue (.badOption item)) := by
  -- The options before it are stored, but nothing is answered yet.
  induction front generalizing values with
  | nil => simp [withOptions, readOption_invalid value invalid, Bind.bind, Except.bind]
  | cons first rest ih =>
    have read := readOption_sets value (sets_settingOf (valid first List.mem_cons_self))
    have later := ih (values.put (settingOf first).1 (value (settingOf first).2))
      fun other member => valid other (List.mem_cons_of_mem _ member)
    simp only [List.cons_append, withOptions, read, Bind.bind, Except.bind]
    exact later

/-- Options are valid, or there is a first one that is not. -/
theorem valid_or_first_invalid (options : List String) :
    (∀ item ∈ options, ¬Invalid item) ∨ ∃ front item back, options = front ++ item :: back ∧
      (∀ other ∈ front, ¬Invalid other) ∧ Invalid item := by
  -- The first option is the one, or the first among the others is.
  induction options with
  | nil => exact Or.inl nofun
  | cons item rest ih =>
    by_cases invalid : Invalid item
    · exact Or.inr ⟨[], item, rest, rfl, nofun, invalid⟩
    · rcases ih with valid | ⟨front, other, back, rfl, valid, first⟩
      · exact Or.inl (List.forall_mem_cons.2 ⟨invalid, valid⟩)
      · exact Or.inr
          ⟨item :: front, other, back, rfl, List.forall_mem_cons.2 ⟨invalid, valid⟩, first⟩

/-- Values that options have overridden: a name has the value of the text to which the last option
that sets it does so, or else its earlier value, and names that are new come behind the earlier
ones, in the order in which options first set them. -/
structure Overridden (value : String → Datum) (earlier : Values) (options : List String)
    (values : Values) : Prop where
  last : ∀ front item back name text, options = front ++ item :: back → Sets item name text →
    (∀ later ∈ back, ∀ more, ¬Sets later name more) → values.find? name = some (value text)
  other : ∀ name, (∀ item ∈ options, ∀ text, ¬Sets item name text) →
    values.find? name = earlier.find? name
  order : ∃ names, List.Forall₂ (fun item name => ∃ text, Sets item name text) options names ∧
    values.keys = earlier.keys ++ (names.filter fun name => name ∉ earlier.keys).eraseDups

/-- What valid options store overrides the values that were there. -/
theorem overridden_putAll (earlier : Values) {options : List String}
    (valid : ∀ item ∈ options, ¬Invalid item) :
    Overridden value earlier options (earlier.putAll (pairsOf value options)) := by
  -- What is stored for a name is what is found first from behind.
  refine ⟨?_, ?_, ?_⟩
  · rintro front item back name text rfl sets latest
    have rest : ∀ other ∈ back, ¬Invalid other := fun other member =>
      valid other (List.mem_append_right _ (List.mem_cons_of_mem _ member))
    have behind : findEntry name (pairsOf value back).reverse = none := by
      rw [findEntry_eq_none, List.map_reverse, List.mem_reverse, mem_names_iff value rest]
      rintro ⟨later, member, more, again⟩
      exact latest later member more again
    have pairs : pairsOf value (front ++ item :: back) =
        pairsOf value front ++ (name, value text) :: pairsOf value back := by
      simp [pairsOf, sets.settingOf_eq]
    rw [Table.find?_putAll, pairs, List.reverse_append, List.reverse_cons, List.append_assoc,
      findEntry_append, behind]
    simp [findEntry]
  -- A name that no option sets is found among the earlier values only.
  · intro name unset
    have absent : findEntry name (pairsOf value options).reverse = none := by
      rw [findEntry_eq_none, List.map_reverse, List.mem_reverse, mem_names_iff value valid]
      rintro ⟨item, member, text, sets⟩
      exact unset item member text sets
    rw [Table.find?_putAll, absent, Option.none_or]
  · refine ⟨options.map fun item => (settingOf item).1, ?_, ?_⟩
    · rw [List.forall₂_map_right_iff, List.forall₂_same]
      exact fun item member => ⟨_, sets_settingOf (valid item member)⟩
    · rw [Table.keys_putAll]
      simp [pairsOf, Function.comp_def]

/-- Two answers are alike: the same failure, or values that differ in the order of their names at
most. -/
def Alike : Except Failure Values → Except Failure Values → Prop
  | .ok values, .ok others =>
    (∀ name, values.find? name = others.find? name) ∧ values.keys.Perm others.keys
  | .error failure, .error other => failure = other
  | _, _ => False

/-- An option can be left out if a later one sets the same name. -/
theorem withOptions_drop (values : Values) (front : List String) {item name text : String}
    {back : List String} (sets : Sets item name text)
    (again : ∃ later ∈ back, ∃ more, Sets later name more) :
    Alike (withOptions value values (front ++ item :: back))
      (withOptions value values (front ++ back)) := by
  -- The answers fail alike wherever the first invalid option is, and otherwise agree on each name.
  rcases valid_or_first_invalid front with valid | ⟨before, bad, between, rfl, valid, invalid⟩
  · rcases valid_or_first_invalid back with rest | ⟨between, bad, after, rfl, rest, invalid⟩
    · have all : ∀ other ∈ front ++ item :: back, ¬Invalid other :=
        List.forall_mem_append.2 ⟨valid, List.forall_mem_cons.2 ⟨sets.valid, rest⟩⟩
      have fewer : ∀ other ∈ front ++ back, ¬Invalid other :=
        List.forall_mem_append.2 ⟨valid, rest⟩
      rw [withOptions_valid value values all, withOptions_valid value values fewer]
      have same : ∀ other, (values.putAll (pairsOf value (front ++ item :: back))).find? other =
          (values.putAll (pairsOf value (front ++ back))).find? other := by
        have known := (mem_names_iff value rest).2 again
        simpa [pairsOf, sets.settingOf_eq] using
          Table.find?_putAll_drop values (pairsOf value front) (value text) known
      exact ⟨same, Table.keys_perm same⟩
    -- The first invalid option comes behind the one that is left out.
    · have all : ∀ other ∈ front ++ item :: between, ¬Invalid other :=
        List.forall_mem_append.2 ⟨valid, List.forall_mem_cons.2 ⟨sets.valid, rest⟩⟩
      have fewer : ∀ other ∈ front ++ between, ¬Invalid other :=
        List.forall_mem_append.2 ⟨valid, rest⟩
      have longer := withOptions_invalid value values all invalid after
      have shorter := withOptions_invalid value values fewer invalid after
      simp only [List.append_assoc, List.cons_append] at longer shorter
      rw [longer, shorter]
      rfl
  -- It comes before the one that is left out.
  · rw [List.append_assoc, List.append_assoc, List.cons_append, List.cons_append,
      withOptions_invalid value values valid invalid,
      withOptions_invalid value values valid invalid]
    rfl

/-- A configuration gives values: none, if there is no file, or those of the JSON object that is the
text of the file. -/
inductive Gives (disk : Disk) : Option String → Values → Prop where
  | none : Gives disk none .empty
  | unnamed : Gives disk (some "") .empty
  | file {path text : String} {bytes : ByteArray} {entries : List (String × Datum)}
      (named : path ≠ "") (held : disk.readFile (.ofString path) = .ok bytes)
      (decoded : Encoding.utf8.decode bytes = .ok text)
      (object : Json.read (unifyBreaks text) = .ok (.dict entries)) :
      Gives disk (some path) (.ofList entries)

/-- The values of a configuration are what options are added to. -/
theorem Gives.build_eq {disk : Disk} {config : Option String} {earlier : Values}
    (given : Gives disk config earlier) (options : List String) :
    build disk config options = withOptions optionValue earlier options := by
  -- A file that is named, read and decoded to an object gives its entries.
  cases given with
  | none | unnamed => rfl
  | file named held decoded object =>
    simp [build, ofConfig, ofConfigText, named, held, decoded, object, Bind.bind, Except.bind]

/-- Only the first equals sign cuts an option, and the blanks around its parts go. -/
example : settingOf " a = x=y " = ("a", "x=y") ∧ Invalid " =v" ∧ Invalid "a" := by
  decide +kernel

/-- Tests whether JSON was read as an object. -/
def isObject : Except Json.Fault Datum → Bool
  | .ok (.dict _) => true
  | _ => false

/-- An object has entries. -/
theorem entries_of_isObject {result : Except Json.Fault Datum} (object : isObject result = true) :
    ∃ entries, result = .ok (.dict entries) := by
  unfold isObject at object
  split at object
  · exact ⟨_, rfl⟩
  · cases object

/-- A configuration with two names that a blank tells apart. -/
def spacedConfig : String := "\x7b\"b\": 1, \"a\": [true], \" a\": null\x7d"

/-- A disk with the configuration. -/
def configDisk : Disk := (Disk.fresh.writeFile (.ofString "c.json") spacedConfig.toUTF8).2

end Context

end Stencil
