/-
Blame: the part of a descriptor that a failed compilation names, for every compiler and every
checker of patterns. The constrained parameters of a template are counted from left to right, and
the source with the first `i` of them in place holds the constraint of each parameter that fewer
than `i` constrained ones stand before (`assemble_eq`). A constraint that is refused by itself is
blamed first; then the literals, if the source is refused without any constraint; then the
constraint that completes the shortest refused source.
-/
import RouteTable.Proofs.Compiler.Gathering
import Mathlib.Order.Nat
import Mathlib.Data.Nat.Find

namespace RouteTable

variable {φ : Type}

/-- The checker makes a program from the pattern. -/
def Accepted (check : Checker φ) (pattern : String) : Prop := ∃ program, check pattern = .ok program

theorem not_accepted_of_error {check : Checker φ} {pattern : String} {fault : φ}
    (h : check pattern = .error fault) : ¬ Accepted check pattern := by
  rintro ⟨program, hp⟩; rw [h] at hp; cases hp

theorem accepted_or_error (check : Checker φ) (pattern : String) :
    Accepted check pattern ∨ ∃ fault, check pattern = .error fault := by
  cases h : check pattern with
  | ok program => exact .inl ⟨program, h⟩
  | error fault => exact .inr ⟨fault, rfl⟩

/-- A pattern is put in its group if it is accepted. -/
theorem map_group?_eq_ok {check : Checker φ} {pattern : String} {k : Compiler} {f : String → Compiler}
    (h : (Compiler.group? check pattern).map f = .ok k) : Accepted check pattern ∧ k = f (grouped pattern) := by
  unfold Compiler.group? at h
  cases hc : check pattern with
  | error fault => rw [hc] at h; cases h
  | ok program => rw [hc] at h; cases h; exact ⟨⟨program, hc⟩, rfl⟩

/-- Of a closed result it can be computed that there is one. -/
theorem exists_ok_of_isOk {α ε : Type} {x : Except ε α} (h : x.isOk = true) : ∃ a, x = .ok a := by
  cases x with
  | error e => cases h
  | ok a => exact ⟨a, rfl⟩

/-- And of a closed result that is an error, which one it is. -/
theorem error_of_map_error {α ε : Type} {x : Except ε α} {e : ε} (h : (x.map fun _ => ()) = .error e) :
    x = .error e := by
  cases x with
  | error e' => cases h; rfl
  | ok a => cases h

/-- A partial function succeeds on all of a list, or there is a first element on which it fails. -/
theorem forall_ok_or_first_error {α β ε : Type} (f : α → Except ε β) : ∀ xs : List α,
    (∀ x ∈ xs, ∃ b, f x = .ok b) ∨
      ∃ pre x post e, xs = pre ++ x :: post ∧ (∀ y ∈ pre, ∃ b, f y = .ok b) ∧ f x = .error e
  | [] => .inl fun _ hx => absurd hx List.not_mem_nil
  | x :: xs => by
    cases hx : f x with
    | error e => exact .inr ⟨[], x, xs, e, rfl, fun _ hy => absurd hy List.not_mem_nil, hx⟩
    | ok b =>
      rcases forall_ok_or_first_error f xs with h | ⟨pre, y, post, e, rfl, h, he⟩
      · exact .inl (List.forall_mem_cons.2 ⟨⟨b, hx⟩, h⟩)
      · exact .inr ⟨x :: pre, y, post, e, rfl, List.forall_mem_cons.2 ⟨⟨b, hx⟩, h⟩, he⟩

theorem eq_take_cons_drop {α : Type} {l : List α} {i : Nat} {a : α} (h : l[i]? = some a) :
    l = l.take i ++ a :: l.drop (i + 1) := by
  obtain ⟨hlt, rfl⟩ := List.getElem?_eq_some_iff.1 h
  rw [List.getElem_cons_drop, List.take_append_drop]

namespace Descriptor

/-- How many constrained parameters stand before a place of the template. -/
def constrainedBefore (d : Descriptor) (place : Nat) : Nat :=
  ({ d with parts := d.parts.take place } : Descriptor).constrained.length

theorem constrainedBefore_succ (d : Descriptor) (part : TemplatePart) (parts : List TemplatePart)
    (place : Nat) :
    ({ d with parts := part :: parts } : Descriptor).constrainedBefore (place + 1) =
      ({ d with parts := [part] } : Descriptor).constrained.length +
        ({ d with parts } : Descriptor).constrainedBefore place := by
  unfold constrainedBefore
  simp only [List.take_succ_cons]
  rw [constrained_cons d part, List.length_append]

end Descriptor

namespace Compiler

variable {k : Compiler} {check : Checker φ} {d : Descriptor}

/-! ## Constrained parameters -/

theorem mem_parameters_iff {name : String} : name ∈ d.parameters ↔ .parameter name ∈ d.parts := by
  rw [Descriptor.parameters, List.mem_filterMap]
  constructor
  · rintro ⟨part, hpart, h⟩
    cases part with
    | parameter n => cases h; exact hpart
    | literal text => cases h
    | format => cases h
  · exact fun h => ⟨_, h, rfl⟩

theorem mem_constrained_iff {o : String × String} :
    o ∈ d.constrained ↔ o.1 ∈ d.parameters ∧ d.constraintFor? o.1 = some o.2 := by
  obtain ⟨name, pattern⟩ := o
  simp only [Descriptor.constrained, List.mem_filterMap, Option.map_eq_some_iff, Prod.mk.injEq]
  constructor
  · rintro ⟨n, hn, p, hp, rfl, rfl⟩; exact ⟨hn, hp⟩
  · rintro ⟨hn, hp⟩; exact ⟨name, hn, pattern, hp, rfl, rfl⟩

/-! ## The source with some constraints in place -/

/-- The text of the part at a place, with the first `inline` constraints in place. -/
def partSource (k : Compiler) (d : Descriptor) (inline place : Nat) : TemplatePart → String
  | .literal text => text
  | .format => k.formatPattern
  | .parameter name =>
    match d.constraintFor? name with
    | none => k.parameterPattern
    | some pattern =>
      if d.constrainedBefore place < inline then "(?:" ++ pattern ++ ")" else k.parameterPattern

/-- After the first part, places and constrained parameters are counted anew. -/
theorem partSource_succ (k : Compiler) (d : Descriptor) (part : TemplatePart)
    (parts : List TemplatePart) (inline place : Nat) :
    k.partSource { d with parts := part :: parts }
        (({ d with parts := [part] } : Descriptor).constrained.length + inline) (place + 1) =
      k.partSource { d with parts } inline place := by
  funext p
  cases p with
  | literal text => rfl
  | format => rfl
  | parameter name =>
    simp only [partSource, Descriptor.constraintFor?, Descriptor.constrainedBefore_succ,
      Nat.add_lt_add_iff_left]

/-- With no constraint in place, it does not matter where a part stands. -/
theorem partSource_zero (k : Compiler) (d : Descriptor) (parts parts' : List TemplatePart)
    (place place' : Nat) :
    k.partSource { d with parts } 0 place = k.partSource { d with parts := parts' } 0 place' := by
  funext p
  cases p with
  | literal text => rfl
  | format => rfl
  | parameter name =>
    simp only [partSource, Descriptor.constraintFor?, Nat.not_lt_zero, if_false]

theorem pieces_eq (k : Compiler) (d : Descriptor) : ∀ (parts : List TemplatePart) (inline : Nat),
    k.pieces d.constraints inline parts =
      parts.mapIdx (k.partSource { d with parts } inline)
  | [], _ => rfl
  | part :: parts, inline => by
    have hstep : ∀ rest, ({ d with parts := [part] } : Descriptor).constrained.length + rest = inline →
        parts.mapIdx (fun place => k.partSource { d with parts := part :: parts } inline (place + 1)) =
          k.pieces d.constraints rest parts := by
      rintro rest rfl
      rw [pieces_eq k d parts rest]
      exact congrArg parts.mapIdx (funext fun place => partSource_succ k d part parts rest place)
    rw [List.mapIdx_cons]
    cases part with
    | literal text => rw [hstep inline (by exact Nat.zero_add inline)]; rfl
    | format => rw [hstep inline (by exact Nat.zero_add inline)]; rfl
    | parameter name =>
      have hlen := congrArg List.length (Descriptor.constrained_parameter d name)
      cases hc : d.constraints.get? name with
      | none =>
        simp only [Descriptor.constraintFor?, hc, Option.map_none, Option.toList_none,
          List.length_nil] at hlen
        rw [hstep inline (by rw [hlen]; exact Nat.zero_add inline)]
        simp [pieces, partSource, Descriptor.constraintFor?, hc]
      | some pattern =>
        simp only [Descriptor.constraintFor?, hc, Option.map_some, Option.toList_some,
          List.length_singleton] at hlen
        cases inline with
        | zero =>
          simp only [pieces, hc, pieces_eq k d parts 0, partSource, Descriptor.constraintFor?,
            Nat.not_lt_zero, if_false]
          exact congrArg (fun f => k.parameterPattern :: parts.mapIdx f)
            (funext fun _ => partSource_zero k d ..)
        | succ rest =>
          rw [hstep rest (by rw [hlen]; exact Nat.add_comm 1 rest)]
          simp [pieces, partSource, Descriptor.constraintFor?, hc,
            Descriptor.constrainedBefore, Descriptor.constrained, Descriptor.parameters]

/-- The source is that of its parts, between anchors. -/
theorem assemble_eq (k : Compiler) (d : Descriptor) (inline : Nat) :
    k.assemble d inline = "^" ++ String.join (d.parts.mapIdx (k.partSource d inline)) ++ "$" := by
  rw [assemble_eq_pieces, pieces_eq k d d.parts inline]

/-- The text of a part in the matcher when no constraint is in place. -/
def openSource (k : Compiler) : TemplatePart → String
  | .literal text => text
  | .format => k.formatPattern
  | .parameter _ => k.parameterPattern

theorem pieces_zero (k : Compiler) (constraints : StringMap String) : ∀ parts : List TemplatePart,
    k.pieces constraints 0 parts = parts.map k.openSource
  | [] => rfl
  | .literal text :: parts => by rw [pieces, pieces_zero k constraints parts]; rfl
  | .format :: parts => by rw [pieces, pieces_zero k constraints parts]; rfl
  | .parameter name :: parts => by
    cases hc : constraints.get? name with
    | none => simp only [pieces, hc, pieces_zero k constraints parts]; rfl
    | some pattern => simp only [pieces, hc, pieces_zero k constraints parts]; rfl

/-! ## Constraints by themselves -/

theorem vet_of_accepted : ∀ {os : List (String × String)}, (∀ o ∈ os, Accepted check o.2) →
    (vet check os).value = .ok ()
  | [], _ => rfl
  | (name, pattern) :: os, h => by
    obtain ⟨program, hp⟩ := h _ (List.mem_cons_self ..)
    have hchecked : (checkConstraint check name pattern).value = .ok () := by simp only [checkConstraint, hp]
    rw [vet, Traced.andThen_of_ok hchecked]
    exact vet_of_accepted fun o ho => h o (List.mem_cons_of_mem _ ho)

/-- The first constraint that is refused by itself is the one that is named. -/
theorem vet_of_refused {pre : List (String × String)} {name pattern : String} {fault : φ}
    (post : List (String × String)) (h : ∀ o ∈ pre, Accepted check o.2) (hp : check pattern = .error fault) :
    (vet check (pre ++ (name, pattern) :: post)).value = .error (.constraint name pattern fault) := by
  have hchecked : (checkConstraint check name pattern).value = .error (.constraint name pattern fault) := by
    simp only [checkConstraint, hp]
  rw [vet_append, Traced.andThen_of_ok (vet_of_accepted h), vet, Traced.andThen_of_error hchecked]

/-- A list of constraints has a first one that is refused, or none. -/
theorem exists_first_refused (check : Checker φ) (os : List (String × String)) :
    (∀ o ∈ os, Accepted check o.2) ∨
      ∃ pre name pattern post fault, os = pre ++ (name, pattern) :: post ∧
        (∀ o ∈ pre, Accepted check o.2) ∧ check pattern = .error fault := by
  rcases forall_ok_or_first_error (fun o => check o.2) os with h | ⟨pre, ⟨name, pattern⟩, post, fault, h⟩
  · exact .inl h
  · exact .inr ⟨pre, name, pattern, post, fault, h⟩

/-! ## Constraints put back one at a time -/

/-- The constraint that completes the first refused source is blamed. -/
theorem culpritAmong_of_least {name pattern : String} {fault : φ} (path : String) (final : φ)
    (post : List (String × String)) : ∀ (pre : List (String × String)) (inline : Nat),
    (∀ j < pre.length, Accepted check (k.assemble d (inline + j))) →
    check (k.assemble d (inline + pre.length)) = .error fault →
      k.culpritAmong check (k.fragments d) path final inline (pre ++ (name, pattern) :: post) =
        .constraint name pattern fault
  | [], inline, _, hf => by
    rw [List.length_nil, Nat.add_zero, assemble] at hf
    simp only [List.nil_append, culpritAmong, hf]
  | o :: pre, inline, h, hf => by
    obtain ⟨program, hp⟩ := h 0 (by simp)
    rw [Nat.add_zero, assemble] at hp
    simp only [List.cons_append, culpritAmong, hp]
    refine culpritAmong_of_least path final post pre (inline + 1) (fun j hj => ?_) ?_
    · rw [Nat.add_right_comm]; exact h (j + 1) (by simpa using hj)
    · rw [Nat.add_right_comm]; exact hf

/-- If the source with every constraint is refused and the one without any is not, then some
constraint completes the shortest refused source, and `blame` names it, whatever was said of the
source with every constraint. -/
theorem blame_of_refused {last : φ}
    (hlast : check (k.assemble d d.constrained.length) = .error last)
    (h0 : Accepted check (k.assemble d 0)) :
    ∃ i name pattern fault, d.constrained[i]? = some (name, pattern) ∧
      (∀ j ≤ i, Accepted check (k.assemble d j)) ∧
      check (k.assemble d (i + 1)) = .error fault ∧
      ∀ final, k.blame check d final = .constraint name pattern fault := by
  -- acceptance need not be monotone, so it is the least refused source that counts
  have hex : ∃ i, ∃ fault, check (k.assemble d i) = .error fault := ⟨_, _, hlast⟩
  classical
  obtain ⟨fault, hf⟩ := Nat.find_spec hex
  have hmin : ∀ j < Nat.find hex, Accepted check (k.assemble d j) := fun j hj =>
    (accepted_or_error check _).resolve_right (Nat.find_min hex hj)
  have hle : Nat.find hex ≤ d.constrained.length := Nat.find_min' hex ⟨_, hlast⟩
  generalize Nat.find hex = least at hf hmin hle
  cases least with
  | zero => exact absurd h0 (not_accepted_of_error hf)
  | succ i =>
    rcases ho : d.constrained[i] with ⟨name, pattern⟩
    refine ⟨i, name, pattern, fault, by rw [List.getElem?_eq_getElem hle, ho],
      fun j hj => hmin j (by omega), hf, fun final => ?_⟩
    have hsplit := eq_take_cons_drop (show d.constrained[i]? = some (name, pattern) by
      rw [List.getElem?_eq_getElem hle, ho])
    have hlen : (d.constrained.take i).length = i := by rw [List.length_take]; omega
    obtain ⟨program, hp⟩ := h0
    rw [blame_of_ok hp, hsplit]
    refine culpritAmong_of_least _ final _ _ 1 (fun j hj => hmin (1 + j) (by omega)) ?_
    rw [hlen, Nat.add_comm]; exact hf

/-! ## Attribution -/

/-- Where no constraint is refused by itself, the matcher decides. -/
theorem compileBy_of_vetted (hv : ∀ o ∈ d.constrained, Accepted check o.2) :
    (k.compileBy check d).value =
      ((check (k.assemble d d.constrained.length)).mapError (k.blame check d)).map (k.routeOf d) := by
  rw [compileBy_eq, Traced.andThen_of_ok (vet_of_accepted hv)]
  cases hc : check (k.assemble d d.constrained.length) with
  | error fault => rw [finish_of_error hc]; rfl
  | ok program => rw [finish_of_ok hc]; rfl

theorem compileBy_of_refused {last : φ} (hv : ∀ o ∈ d.constrained, Accepted check o.2)
    (hlast : check (k.assemble d d.constrained.length) = .error last) :
    (k.compileBy check d).value = .error (k.blame check d last) := by
  rw [compileBy_of_vetted hv, hlast]; rfl

theorem compileBy_of_accepted (hv : ∀ o ∈ d.constrained, Accepted check o.2)
    (hlast : Accepted check (k.assemble d d.constrained.length)) :
    ∃ r, (k.compileBy check d).value = .ok r := by
  obtain ⟨program, hp⟩ := hlast
  exact ⟨k.routeOf d program, by rw [compileBy_of_vetted hv, hp]; rfl⟩

theorem compileBy_of_unvetted {pre post : List (String × String)} {name pattern : String} {fault : φ}
    (ho : d.constrained = pre ++ (name, pattern) :: post) (hv : ∀ o ∈ pre, Accepted check o.2)
    (hp : check pattern = .error fault) :
    (k.compileBy check d).value = .error (.constraint name pattern fault) := by
  rw [compileBy_eq, ho, Traced.andThen_of_error (vet_of_refused post hv hp)]

/-- If no constraint is refused by itself, a descriptor compiles, or the matcher is refused without
any constraint and its literals are named, or a constraint is named with which the matcher is refused
and without which it is not. -/
theorem compileBy_cases (hv : ∀ o ∈ d.constrained, Accepted check o.2) :
    (∃ r, (k.compileBy check d).value = .ok r) ∨
    (∃ fault, check (k.assemble d 0) = .error fault ∧
      (k.compileBy check d).value = .error (.template d.path fault)) ∨
    ∃ i name pattern fault, d.constrained[i]? = some (name, pattern) ∧
      (∀ j ≤ i, Accepted check (k.assemble d j)) ∧ check (k.assemble d (i + 1)) = .error fault ∧
      (k.compileBy check d).value = .error (.constraint name pattern fault) := by
  rcases accepted_or_error check (k.assemble d d.constrained.length) with hacc | ⟨last, hlast⟩
  · exact .inl (compileBy_of_accepted hv hacc)
  · rcases accepted_or_error check (k.assemble d 0) with h0 | ⟨fault, hf⟩
    · obtain ⟨i, name, pattern, fault, ho, hacc, hf, hb⟩ := blame_of_refused hlast h0
      exact .inr (.inr ⟨i, name, pattern, fault, ho, hacc, hf, by rw [compileBy_of_refused hv hlast, hb]⟩)
    · exact .inr (.inl ⟨fault, hf, by rw [compileBy_of_refused hv hlast, blame_of_error hf]⟩)

/-- What a compilation answers, for every compiler, checker and descriptor. The source with the
first `i` constraints in place is, between anchors, the text of each part, where a constrained
parameter shows its constraint if fewer than `i` constrained ones stand before it.
(1) If a constraint is refused by itself, the first such one is named with what the checker said of
it. Otherwise (2) an accepted source compiles; (3) if the source is refused and so is the one
without constraints, the literals are named with what was said of the latter; (4) if that one is
accepted, the constraint that completes the shortest refused source is named with what was said of
that source. Own patterns are never named, and `blame` does not depend on why the whole source was
refused, so its last resort is never the answer. -/
theorem compileBy_attribution (k : Compiler) (check : Checker φ) (d : Descriptor) :
    (∀ i, k.assemble d i = "^" ++ String.join (d.parts.mapIdx (k.partSource d i)) ++ "$") ∧
    (∀ pre name pattern post fault, d.constrained = pre ++ (name, pattern) :: post →
      (∀ o ∈ pre, Accepted check o.2) → check pattern = .error fault →
      (k.compileBy check d).value = .error (.constraint name pattern fault)) ∧
    ((∀ o ∈ d.constrained, Accepted check o.2) →
      (Accepted check (k.assemble d d.constrained.length) →
        ∃ r, (k.compileBy check d).value = .ok r) ∧
      ∀ last, check (k.assemble d d.constrained.length) = .error last →
        (∀ fault, check (k.assemble d 0) = .error fault →
          (k.compileBy check d).value = .error (.template d.path fault)) ∧
        (Accepted check (k.assemble d 0) →
          ∃ i name pattern fault, d.constrained[i]? = some (name, pattern) ∧
            (∀ j ≤ i, Accepted check (k.assemble d j)) ∧
            check (k.assemble d (i + 1)) = .error fault ∧
            (k.compileBy check d).value = .error (.constraint name pattern fault)) ∧
        ∀ final, k.blame check d final = k.blame check d last) ∧
    ∀ pattern fault, (k.compileBy check d).value ≠ .error (.pattern pattern fault) := by
  refine ⟨assemble_eq k d, fun pre name pattern post fault => compileBy_of_unvetted,
    fun hv => ⟨compileBy_of_accepted hv, fun last hlast => ⟨fun fault hf => ?_, fun h0 => ?_, fun final => ?_⟩⟩,
    fun pattern fault h => ?_⟩
  · rw [compileBy_of_refused hv hlast, blame_of_error hf]
  · obtain ⟨i, name, pattern, fault, ho, hacc, hf, hb⟩ := blame_of_refused hlast h0
    exact ⟨i, name, pattern, fault, ho, hacc, hf, by rw [compileBy_of_refused hv hlast, hb]⟩
  · rcases accepted_or_error check (k.assemble d 0) with h0 | ⟨fault, hf⟩
    · obtain ⟨i, name, pattern, fault, -, -, -, hb⟩ := blame_of_refused hlast h0
      rw [hb, hb]
    · rw [blame_of_error hf, blame_of_error hf]
  · rcases exists_first_refused check d.constrained with hv | ⟨pre, n, p, post, f, ho, hv, hp⟩
    · rcases accepted_or_error check (k.assemble d d.constrained.length) with hacc | ⟨last, hlast⟩
      · obtain ⟨r, hr⟩ := compileBy_of_accepted hv hacc
        rw [hr] at h; cases h
      · rw [compileBy_of_refused hv hlast] at h
        rcases accepted_or_error check (k.assemble d 0) with h0 | ⟨f, hf⟩
        · obtain ⟨i, n, p, f, -, -, -, hb⟩ := blame_of_refused hlast h0
          rw [hb] at h; cases h
        · rw [blame_of_error hf] at h; cases h
    · rw [compileBy_of_unvetted ho hv hp] at h; cases h

end Compiler
end RouteTable
