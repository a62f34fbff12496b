import Dialects.Config.Settings
import Dialects.Text.Raw
import Dialects.Yaml.Value

/-!
# Validation

A validator takes keywords for a model and gives settings, or tells what is wrong with the keywords.
All that the program relies on is that it goes by what the model declares
(`Validator.ChecksDeclarations`). The standard validator finds every fault, not only the first:
those of the fields in the order of the declarations, then the unknown fields in the order given
(`Model.faults`).
-/

namespace Dialects

/-- Values given by name, each name once, in the order given. -/
structure Keywords where
  entries : List (RawText × Yaml.Value)
  nodup : (entries.map Prod.fst).Nodup

namespace Keywords

def empty : Keywords := ⟨[], List.nodup_nil⟩

def get? (kws : Keywords) (name : RawText) : Option Yaml.Value := kws.entries.lookup name

@[simp] theorem get?_empty (name : RawText) : empty.get? name = none := rfl

/-- Puts a value in the place of the one with the same name, or behind all others. -/
def setEntry (name : RawText) (value : Yaml.Value) :
    List (RawText × Yaml.Value) → List (RawText × Yaml.Value)
  | [] => [(name, value)]
  | entry :: entries =>
    if entry.1 = name then (name, value) :: entries else entry :: setEntry name value entries

section SetEntry

variable {name : RawText} {value : Yaml.Value}

theorem mem_of_mem_setEntry : ∀ {entries : List (RawText × Yaml.Value)}
    {entry : RawText × Yaml.Value}, entry ∈ setEntry name value entries →
      entry = (name, value) ∨ entry ∈ entries
  | [], entry, h => .inl (List.mem_singleton.1 h)
  | other :: entries, entry, h => by
    unfold setEntry at h
    split at h
    · exact (List.mem_cons.1 h).imp id (List.mem_cons_of_mem _)
    · rcases List.mem_cons.1 h with rfl | h
      · exact .inr List.mem_cons_self
      · exact (mem_of_mem_setEntry h).imp id (List.mem_cons_of_mem _)

theorem nodup_setEntry : ∀ {entries : List (RawText × Yaml.Value)},
    (entries.map Prod.fst).Nodup → ((setEntry name value entries).map Prod.fst).Nodup
  | [], _ => by simp [setEntry]
  | other :: entries, h => by
    unfold setEntry
    split
    · rename_i heq
      simpa [heq] using h
    · rename_i hne
      rw [List.map_cons, List.nodup_cons] at h ⊢
      refine ⟨fun hmem => ?_, nodup_setEntry h.2⟩
      obtain ⟨entry, hentry, heq⟩ := List.mem_map.1 hmem
      rcases mem_of_mem_setEntry hentry with rfl | hentry
      · exact hne heq.symm
      · exact h.1 (heq ▸ List.mem_map_of_mem hentry)

theorem lookup_setEntry (other : RawText) : ∀ entries : List (RawText × Yaml.Value),
    (setEntry name value entries).lookup other
      = if other = name then some value else entries.lookup other
  | [] => by
    by_cases h : other = name
    · simp [setEntry, h]
    · simp [setEntry, List.lookup_cons, h, beq_eq_false_iff_ne.2 h]
  | (key, old) :: entries => by
    unfold setEntry
    split
    · rename_i heq
      obtain rfl : key = name := heq
      by_cases h : other = key
      · simp [h]
      · simp [List.lookup_cons, h, beq_eq_false_iff_ne.2 h]
    · rename_i hne
      by_cases h : other = key
      · simp [h, show key ≠ name from hne]
      · simp [List.lookup_cons, beq_eq_false_iff_ne.2 h, lookup_setEntry other entries]

/-- Each name being given once, the value of an entry is the one of its name. -/
theorem lookup_eq_some_of_mem : ∀ {entries : List (RawText × Yaml.Value)},
    (entries.map Prod.fst).Nodup → (name, value) ∈ entries → entries.lookup name = some value
  | (key, old) :: entries, h, hmem => by
    rw [List.map_cons, List.nodup_cons] at h
    rcases List.mem_cons.1 hmem with heq | hrest
    · obtain ⟨rfl, rfl⟩ := Prod.mk.inj heq
      simp
    · have hne : name ≠ key := by
        rintro rfl
        exact h.1 (List.mem_map.2 ⟨(name, value), hrest, rfl⟩)
      rw [List.lookup_cons, beq_eq_false_iff_ne.2 hne]
      exact lookup_eq_some_of_mem h.2 hrest

end SetEntry

def set (kws : Keywords) (name : RawText) (value : Yaml.Value) : Keywords :=
  ⟨setEntry name value kws.entries, nodup_setEntry kws.nodup⟩

theorem get?_set (kws : Keywords) (name : RawText) (value : Yaml.Value)
    (other : RawText) :
    (kws.set name value).get? other = if other = name then some value else kws.get? other :=
  lookup_setEntry other kws.entries

theorem get?_of_mem {kws : Keywords} {name : RawText} {value : Yaml.Value}
    (h : (name, value) ∈ kws.entries) : kws.get? name = some value :=
  lookup_eq_some_of_mem kws.nodup h

def give (kws : Keywords) (f : Field) (t : Text) : Keywords := kws.set f.name.raw (.text t.raw)

@[simp] theorem get?_give (kws : Keywords) (f : Field) (t : Text) (name : RawText) :
    (kws.give f t).get? name
      = if name = f.name.raw then some (.text t.raw) else kws.get? name :=
  get?_set kws f.name.raw (.text t.raw) name

end Keywords

/-- A check of the keywords given for a model. Of the settings that it gives only those count that
the model declares. -/
abbrev Validator := Model → Keywords → Except ValidationError Settings

/-- The validator goes by the declarations of a model. -/
structure Validator.ChecksDeclarations (validate : Validator) : Prop where
  /-- Every setting is one that its field takes. -/
  admits : ∀ {m : Model} {kws : Keywords} {s : Settings}, validate m kws = .ok s →
    ∀ d ∈ m.declarations, d.admits (s.text d.field) = true
  /-- A setting given as a text is kept. -/
  keeps : ∀ {m : Model} {kws : Keywords} {s : Settings}, validate m kws = .ok s →
    ∀ d ∈ m.declarations, ∀ t : Text, kws.get? d.field.name.raw = some (.text t.raw) →
      s.text d.field = t
  /-- A setting that is not given is the usual one. -/
  usual : ∀ {m : Model} {kws : Keywords} {s : Settings}, validate m kws = .ok s →
    ∀ d ∈ m.declarations, kws.get? d.field.name.raw = none → s.text d.field = d.usualText
  /-- Texts that the fields of the model take are accepted. -/
  accepts : ∀ {m : Model} {kws : Keywords},
    (∀ name value, kws.get? name = some value → ∃ d ∈ m.declarations, d.field.name.raw = name
      ∧ ∃ t : Text, value = .text t.raw ∧ d.admits t = true) →
    ∃ s, validate m kws = .ok s

/-! ## The standard validator -/

/-- A value given for a field. -/
inductive GivenValue
  /-- A text, or bytes that are one in UTF-8. -/
  | text (t : Text)
  /-- A text with a surrogate in it. -/
  | brokenText
  | brokenBytes
  | other
  deriving DecidableEq, Repr

def GivenValue.text? : GivenValue → Option Text
  | .text t => some t
  | _ => none

def Yaml.Value.given : Yaml.Value → GivenValue
  | .text s =>
    match s.toText? with
    | some t => .text t
    | none => .brokenText
  | .bytes content =>
    match Utf8.decode content with
    | .ok t => .text t
    | .error _ => .brokenBytes
  | _ => .other

namespace Declaration

def fault? (d : Declaration) (value : GivenValue) : Option FieldFault :=
  match d, value with
  | .logLevel _, value => if value.text?.any d.admits then none else some .noLevel
  | .direction _, .brokenText => some .unreadableText
  | .direction _, value => if value.text?.any d.admits then none else some .noDirection
  | .codeLanguage least _, .text t => if d.admits t then none else some (.shortText least)
  | .codeLanguage _ _, .other => some .noText
  | .codeLanguage _ _, _ => some .unreadableText

/-- The settings with the one of this field: that given, or the usual one. -/
def put (given : Option Text) (s : Settings) : Declaration → Settings
  | .logLevel usual => { s with logLevel := (given.bind LogLevel.ofName?).getD usual }
  | .direction usual => { s with direction := (given.bind Direction.ofName?).getD usual }
  | .codeLanguage _ usual => { s with codeLanguage := given.getD usual }

end Declaration

def Keywords.text? (kws : Keywords) (f : Field) : Option Text :=
  (kws.get? f.name.raw).bind (·.given.text?)

namespace Model

/-- Everything that is wrong with the keywords given for a model. A surrogate in a name is the only
fault that is told then. -/
def faults (m : Model) (kws : Keywords) : List (Option Text × FieldFault) :=
  if kws.entries.any (·.1.toText? = none) then [(none, .unreadableText)]
  else
    (m.declarations.filterMap fun d => do
      return (some d.field.name, ← d.fault? (← kws.get? d.field.name.raw).given))
    ++ (kws.entries.filter fun (name, _) => m.declarations.all (·.field.name.raw ≠ name)).map
      fun (name, _) => (name.toText?, .unknownField)

def settings (m : Model) (kws : Keywords) : Settings :=
  m.declarations.foldl (fun s d => d.put (kws.text? d.field) s) {}

end Model

def Validator.standard : Validator := fun m kws =>
  match m.faults kws with
  | [] => .ok (m.settings kws)
  | faults => .error ⟨m, faults⟩

end Dialects
