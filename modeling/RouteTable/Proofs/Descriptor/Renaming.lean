/-
Parameters under other names. A constraint is found by the name of its parameter, and other names put the
keys of the constraints in another order; but as long as different names stay different, what is found under
the new name is what was found under the old one (`StringMap.get?_mapKeys`). The names decide nothing else,
so a descriptor under other names is compiled with the same matcher or refused for the same cause, and the
new names appear where the old ones did (`compileBy_rename`).
-/
import RouteTable.Proofs.Descriptor.Calls
import Mathlib.Logic.Equiv.Basic

namespace RouteTable

variable {φ : Type} {f : String → String}

/-! ## Maps under other keys -/

namespace StringMap

variable {α : Type} {m : StringMap α}

/-- The pairs under other keys. -/
def withKeys (f : String → String) (pairs : List (String × α)) : List (String × α) :=
  pairs.map fun e => (f e.1, e.2)

/-- The map with its values under other keys. -/
def mapKeys (f : String → String) (m : StringMap α) : StringMap α := ofInserts (withKeys f m.toList)

theorem lookup_withKeys (hf : Function.Injective f) (key : String) : ∀ pairs : List (String × α),
    (withKeys f pairs).lookup (f key) = pairs.lookup key
  | [] => rfl
  | (first, value) :: pairs => by
    have ih := lookup_withKeys hf key pairs
    by_cases hkey : key = first
    · subst hkey
      simp [withKeys]
    · have hne : (key == first) = false := beq_eq_false_iff_ne.2 hkey
      have hne' : (f key == f first) = false := beq_eq_false_iff_ne.2 fun h => hkey (hf h)
      rw [List.lookup_cons, hne, withKeys, List.map_cons, List.lookup_cons, hne']
      exact ih

theorem lookup_withKeys_of_ne {key : String} (h : ∀ name, f name ≠ key) : ∀ pairs : List (String × α),
    (withKeys f pairs).lookup key = none
  | [] => rfl
  | (first, value) :: pairs => by
    have hne : (key == f first) = false := beq_eq_false_iff_ne.2 (h first).symm
    rw [withKeys, List.map_cons, List.lookup_cons, hne]
    exact lookup_withKeys_of_ne h pairs

theorem reverse_withKeys (pairs : List (String × α)) : (withKeys f pairs).reverse = withKeys f pairs.reverse :=
  List.map_reverse.symm

theorem get?_mapKeys (hf : Function.Injective f) (h : m.Sound) (key : String) :
    (m.mapKeys f).get? (f key) = m.get? key := by
  have hself : ofInserts m.toList = m := ofInserts_of_perm h (List.Perm.refl _)
  rw [mapKeys, get?_ofInserts, reverse_withKeys, lookup_withKeys hf, ← get?_ofInserts, hself]

/-- Keys can be changed before the insertions as well as after them. -/
theorem mapKeys_ofInserts (hf : Function.Injective f) (pairs : List (String × α)) :
    (ofInserts pairs).mapKeys f = ofInserts (withKeys f pairs) := by
  refine eq_of_get? (sound_ofInserts _) (sound_ofInserts _) fun key => ?_
  by_cases hkey : ∃ name, f name = key
  · obtain ⟨name, rfl⟩ := hkey
    rw [get?_mapKeys hf (sound_ofInserts pairs), get?_ofInserts, get?_ofInserts, reverse_withKeys,
      lookup_withKeys hf]
  · have hne : ∀ name, f name ≠ key := fun name h => hkey ⟨name, h⟩
    rw [mapKeys, get?_ofInserts, get?_ofInserts, reverse_withKeys, reverse_withKeys, lookup_withKeys_of_ne hne,
      lookup_withKeys_of_ne hne]

end StringMap

/-! ## Descriptors under other names -/

/-- The call with another name for the parameter that it adds or constrains. -/
def Call.rename (f : String → String) : Call → Call
  | parameter name => parameter (f name)
  | part p => part (p.rename f)
  | constraint name pattern => constraint (f name) pattern
  | literal text => literal text
  | format => format
  | requirement key value => requirement key value
  | servedBy controller action => servedBy controller action

namespace Descriptor

variable {d : Descriptor}

/-- The descriptor with other names for its parameters, in the template and for the constraints. -/
def rename (f : String → String) (d : Descriptor) : Descriptor :=
  { d with parts := d.parts.map (TemplatePart.rename f), constraints := d.constraints.mapKeys f }

theorem constraintFor?_rename (hf : Function.Injective f) (hd : d.constraints.Sound) (name : String) :
    (d.rename f).constraintFor? (f name) = d.constraintFor? name := StringMap.get?_mapKeys hf hd name

theorem relabels_rename (hf : Function.Injective f) (hd : d.constraints.Sound) (k : Compiler) :
    k.Relabels f d (d.rename f) :=
  Compiler.relabels_of_rename rfl rfl rfl fun name _ => constraintFor?_rename hf hd name

/-- The names can be changed in the calls as well. -/
theorem rename_ofCalls (hf : Function.Injective f) (verb : String) (calls : List Call) :
    (ofCalls verb calls).rename f = ofCalls verb (calls.map (Call.rename f)) := by
  have hparts : (calls.map (Call.rename f)).flatMap Call.parts =
      (calls.flatMap Call.parts).map (TemplatePart.rename f) := by
    rw [List.flatMap_map, List.map_flatMap]
    exact congrArg (calls.flatMap ·) (funext fun call => by cases call <;> rfl)
  have hconstraints : (calls.map (Call.rename f)).flatMap Call.constraints =
      StringMap.withKeys f (calls.flatMap Call.constraints) := by
    rw [StringMap.withKeys, List.flatMap_map, List.map_flatMap]
    exact congrArg (calls.flatMap ·) (funext fun call => by cases call <;> rfl)
  have hrequirements : (calls.map (Call.rename f)).flatMap Call.requirements = calls.flatMap Call.requirements := by
    rw [List.flatMap_map]
    exact congrArg (calls.flatMap ·) (funext fun call => by cases call <;> rfl)
  rw [ofCalls_eq, ofCalls_eq, hparts, hconstraints, hrequirements, ← StringMap.mapKeys_ofInserts hf]
  rfl

/-- The names of parameters are only labels, for every compiler and every checker of patterns, as long as
different names stay different. A descriptor under other names is one that is built by the same calls with
these names. It compiles exactly if the first does; then the matchers are the same, so that the routes accept
the same paths, and the parameters are the new names in the same order. Otherwise it is refused for the same
cause and with the same fault, and where a constraint is named, then under its new name with the same
pattern. -/
theorem compileBy_rename (hf : Function.Injective f) (hd : d.Built) (k : Compiler) (check : Checker φ) :
    (∀ verb calls, d = ofCalls verb calls → d.rename f = ofCalls verb (calls.map (Call.rename f))) ∧
    ((∃ r, (k.compileBy check (d.rename f)).value = .ok r) ↔ ∃ r, (k.compileBy check d).value = .ok r) ∧
    (∀ r r', (k.compileBy check d).value = .ok r → (k.compileBy check (d.rename f)).value = .ok r' →
      r'.matcherSource = r.matcherSource ∧ (∀ path, r'.matchesPath path = r.matchesPath path) ∧
        r'.parameters = r.parameters.map f) ∧
    (∀ e, (k.compileBy check d).value = .error e →
      (k.compileBy check (d.rename f)).value = .error (e.relabel f (d.rename f).path)) ∧
    ∀ name pattern fault, (k.compileBy check d).value = .error (.constraint name pattern fault) →
      (k.compileBy check (d.rename f)).value = .error (.constraint (f name) pattern fault) := by
  have hvalue : (k.compileBy check (d.rename f)).value =
      ((k.compileBy check d).relabel f (d.rename f).path).value := by
    rw [Compiler.compileBy_relabel (relabels_rename hf hd.sound k)]
  have hok : ∀ r, (k.compileBy check d).value = .ok r →
      (k.compileBy check (d.rename f)).value = .ok (r.relabel f (d.rename f).path) := fun r h => by
    rw [hvalue, Traced.relabel, h]; rfl
  have herror : ∀ e, (k.compileBy check d).value = .error e →
      (k.compileBy check (d.rename f)).value = .error (e.relabel f (d.rename f).path) := fun e h => by
    rw [hvalue, Traced.relabel, h]; rfl
  refine ⟨?_, ⟨?_, ?_⟩, fun r r' hr hr' => ?_, herror, fun name pattern fault => herror _⟩
  · rintro verb calls rfl
    exact rename_ofCalls hf verb calls
  · rintro ⟨r', hr'⟩
    cases hc : (k.compileBy check d).value with
    | ok r => exact ⟨r, rfl⟩
    | error e => rw [herror e hc] at hr'; cases hr'
  · rintro ⟨r, hr⟩
    exact ⟨_, hok r hr⟩
  · rw [hok r hr] at hr'
    obtain rfl := Except.ok.inj hr'
    exact ⟨rfl, fun _ => rfl, rfl⟩

/-- A line of a page, both by number; the pattern for lines can clash with that for pages. -/
def lineOfPage (line : String) : Descriptor :=
  .ofCalls "GET" [.literal "/", .parameter "page", .literal "/", .parameter "line",
    .constraint "page" "(?P<n>[0-9]+)", .constraint "line" line]

/-- A bar is the other name of the line, and the other way round. -/
def barForLine : String → String := Equiv.swap "line" "|"

/-- The other name is no word, and as a key it stands behind that of pages. Where the patterns clash, the line
is still what is blamed, and where they do not the matcher is the same. -/
theorem lineOfPage_renamed :
    Function.Injective barForLine ∧ (Before "line" "page" ∧ Before "page" "|") ∧
    (lineOfPage "(?P<n>[0-9]+)").Built ∧ (lineOfPage "[0-9]+").Built ∧
    (({} : Compiler).compile (lineOfPage "(?P<n>[0-9]+)")).value =
      .error (.constraint "line" "(?P<n>[0-9]+)" .malformed) ∧
    (({} : Compiler).compile ((lineOfPage "(?P<n>[0-9]+)").rename barForLine)).value =
      .error (.constraint "|" "(?P<n>[0-9]+)" .malformed) ∧
    ∃ r r', (({} : Compiler).compile (lineOfPage "[0-9]+")).value = .ok r ∧
      (({} : Compiler).compile ((lineOfPage "[0-9]+").rename barForLine)).value = .ok r' ∧
      r'.matcherSource = r.matcherSource ∧ r'.parameters = ["page", "|"] := by
  have hf : Function.Injective barForLine := (Equiv.swap "line" "|").injective
  have hclash : (({} : Compiler).compileBy Pattern.compile (lineOfPage "(?P<n>[0-9]+)")).value =
      .error (.constraint "line" "(?P<n>[0-9]+)" .malformed) := error_of_map_error (by decide +kernel)
  have hok : (({} : Compiler).compileBy Pattern.compile (lineOfPage "[0-9]+")).value.isOk = true := by decide +kernel
  have hparameters : (({} : Compiler).compileBy Pattern.compile (lineOfPage "[0-9]+")).value.toOption.map
      (·.parameters) = some ["page", "line"] := by decide +kernel
  obtain ⟨r, hr⟩ := exists_ok_of_isOk hok
  rw [hr] at hparameters
  have hpage : r.parameters = ["page", "line"] := Option.some.inj hparameters
  have hbefore : Before "line" "page" ∧ Before "page" "|" := by
    unfold Before
    decide +kernel
  obtain ⟨-, -, -, -, hblamed⟩ := compileBy_rename hf ⟨_, _, rfl⟩ {} Pattern.compile (d := lineOfPage "(?P<n>[0-9]+)")
  obtain ⟨-, hcompiles, hsame, -, -⟩ := compileBy_rename hf ⟨_, _, rfl⟩ {} Pattern.compile (d := lineOfPage "[0-9]+")
  obtain ⟨r', hr'⟩ := hcompiles.2 ⟨r, hr⟩
  obtain ⟨hmatcher, -, hnames⟩ := hsame r r' hr hr'
  refine ⟨hf, hbefore, ⟨_, _, rfl⟩, ⟨_, _, rfl⟩, hclash, hblamed _ _ _ hclash, r, r', hr, hr', hmatcher, ?_⟩
  rw [hnames, hpage]
  decide

end Descriptor
end RouteTable
