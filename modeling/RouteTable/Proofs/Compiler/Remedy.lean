/-
What to do about a failed compilation. The constraint that is named is the first, from left to right,
with which the matcher is refused; so the descriptor compiles without it and those after it, and
without only those after it the same constraint is named again. If the literals are named, they are
at fault without any constraint too (`compileBy_dropping_blamed`).

Dropping constraints is said of the lookups of two descriptors (`DropsTo`). If the names that keep
their constraints stand before the others in the template, the matchers agree as long as no more
constraints are put in place than were kept (`assemble_of_dropsTo`).
-/
import RouteTable.Proofs.Compiler.Blame
import Mathlib.Data.List.Nodup

namespace RouteTable

variable {φ : Type}

/-! ## Dropping constraints -/

namespace Descriptor

/-- The constraint of a name, with the name. -/
def constraintOn (d : Descriptor) (name : String) : Option (String × String) :=
  (d.constraintFor? name).map (name, ·)

theorem constrained_eq (d : Descriptor) : d.constrained = d.parameters.filterMap d.constraintOn := rfl

/-- `d'` is `d` without the constraints of some parameters. What the maps say of names that are no
parameters plays no role. -/
structure DropsTo (d d' : Descriptor) (names : String → Prop) : Prop where
  verb : d'.verb = d.verb
  parts : d'.parts = d.parts
  metadata : d'.metadata = d.metadata
  dropped : ∀ name ∈ d.parameters, names name → d'.constraintFor? name = none
  kept : ∀ name ∈ d.parameters, ¬ names name → d'.constraintFor? name = d.constraintFor? name

variable {d d' : Descriptor} {names : String → Prop}

theorem DropsTo.parameters (h : d.DropsTo d' names) : d'.parameters = d.parameters := by
  rw [Descriptor.parameters, h.parts]; rfl

theorem DropsTo.path (h : d.DropsTo d' names) : d'.path = d.path := by
  rw [Descriptor.path, h.parts]; rfl

theorem DropsTo.constraintOn_dropped (h : d.DropsTo d' names) {name : String} (hname : name ∈ d.parameters)
    (hdropped : names name) : d'.constraintOn name = none := by
  rw [Descriptor.constraintOn, h.dropped name hname hdropped]; rfl

theorem DropsTo.constraintOn_kept (h : d.DropsTo d' names) {name : String} (hname : name ∈ d.parameters)
    (hkept : ¬ names name) : d'.constraintOn name = d.constraintOn name := by
  rw [Descriptor.constraintOn, h.kept name hname hkept]; rfl

/-- What is left was there before. -/
theorem DropsTo.mem_constrained (h : d.DropsTo d' names) {o : String × String} (ho : o ∈ d'.constrained) :
    o ∈ d.constrained := by
  rw [constrained_eq, h.parameters] at ho
  obtain ⟨name, hname, ho⟩ := List.mem_filterMap.1 ho
  refine List.mem_filterMap.2 ⟨name, hname, ?_⟩
  by_cases hdropped : names name
  · rw [h.constraintOn_dropped hname hdropped] at ho; cases ho
  · rw [h.constraintOn_kept hname hdropped] at ho; exact ho

/-- Without the constraints of the last parameters, those of the first are left. -/
theorem DropsTo.constrained {before after : List String} (h : d.DropsTo d' (· ∈ after))
    (hparams : d.parameters = before ++ after) (hdisjoint : before.Disjoint after) :
    d'.constrained = before.filterMap d.constraintOn := by
  have hafter : after.filterMap d'.constraintOn = [] :=
    List.filterMap_eq_nil_iff.2 fun _ hname =>
      h.constraintOn_dropped (hparams ▸ List.mem_append_right _ hname) hname
  have hbefore : before.filterMap d'.constraintOn = before.filterMap d.constraintOn :=
    List.filterMap_congr fun _ hname =>
      h.constraintOn_kept (hparams ▸ List.mem_append_left _ hname) (hdisjoint hname)
  rw [constrained_eq, h.parameters, hparams, List.filterMap_append, hafter, hbefore, List.append_nil]

/-- A constrained parameter stands somewhere in the template, after those that are counted before it. -/
theorem exists_parameters_of_constrained {i : Nat} {name pattern : String}
    (h : d.constrained[i]? = some (name, pattern)) :
    ∃ before after, d.parameters = before ++ name :: after ∧ d.constraintOn name = some (name, pattern) ∧
      (before.filterMap d.constraintOn).length = i := by
  have hlt : i < d.constrained.length := (List.getElem?_eq_some_iff.1 h).1
  have hsplit := eq_take_cons_drop h
  rw [constrained_eq] at hlt hsplit
  obtain ⟨first, rest, hparams, hfirst, hrest⟩ := List.filterMap_eq_append_iff.1 hsplit
  obtain ⟨skipped, found, after, rfl, hskipped, hfound, -⟩ := List.filterMap_eq_cons_iff.1 hrest
  have hname : found = name := by
    obtain ⟨p, -, hp⟩ := Option.map_eq_some_iff.1 hfound
    cases hp; rfl
  subst hname
  refine ⟨first ++ skipped, after, by rw [hparams, List.append_assoc], hfound, ?_⟩
  have hnone : skipped.filterMap d.constraintOn = [] := List.filterMap_eq_nil_iff.2 hskipped
  rw [List.filterMap_append, hnone, List.append_nil, hfirst, List.length_take, Nat.min_eq_left (by omega)]

end Descriptor

namespace Compiler

open Descriptor

variable {k : Compiler} {check : Checker φ} {d d' : Descriptor}

/-! ## The matchers of two descriptors -/

/-- Two matchers agree where the parameters that have their constraint in place have the same. -/
theorem pieces_of_agree (k : Compiler) (d d' : Descriptor) (after : List String) :
    ∀ (parts : List TemplatePart) (before : List String) (inline : Nat),
      ({ d with parts } : Descriptor).parameters = before ++ after →
      (∀ name ∈ before, d'.constraintFor? name = d.constraintFor? name) →
      inline ≤ (before.filterMap d.constraintOn).length →
        k.pieces d'.constraints inline parts = k.pieces d.constraints inline parts
  | [], _, _, _, _, _ => rfl
  | .literal text :: parts, before, inline, hp, ha, hi => by
    rw [pieces, pieces, pieces_of_agree k d d' after parts before inline hp ha hi]
  | .format :: parts, before, inline, hp, ha, hi => by
    rw [pieces, pieces, pieces_of_agree k d d' after parts before inline hp ha hi]
  | .parameter name :: parts, [], inline, _, _, hi => by
    -- nothing is in place any more
    obtain rfl : inline = 0 := by simpa using hi
    rw [pieces_zero, pieces_zero]
  | .parameter name :: parts, first :: before, inline, hp, ha, hi => by
    obtain rfl : name = first := (List.cons.inj hp).1
    obtain ⟨hname, hrest⟩ := List.forall_mem_cons.1 ha
    have ih := fun inline => pieces_of_agree k d d' after parts before inline (List.cons.inj hp).2 hrest
    simp only [Descriptor.constraintFor?] at hname
    cases hc : d.constraints.get? name with
    | none =>
      rw [hc] at hname
      have hi' : inline ≤ (before.filterMap d.constraintOn).length := by
        simpa [List.filterMap_cons, constraintOn, Descriptor.constraintFor?, hc] using hi
      simp only [pieces, hname, hc, ih inline hi']
    | some pattern =>
      rw [hc] at hname
      cases inline with
      | zero => rw [pieces_zero, pieces_zero]
      | succ inline =>
        -- this constraint is in place in both matchers, and one less among the others
        have hi' : inline ≤ (before.filterMap d.constraintOn).length := by
          simpa [List.filterMap_cons, constraintOn, Descriptor.constraintFor?, hc] using hi
        simp only [pieces, hname, hc, ih inline hi']

/-- Without the constraints of the last parameters, and with no more in place than are left, the
matcher is the same. -/
theorem assemble_of_dropsTo {before after : List String} (h : d.DropsTo d' (· ∈ after))
    (hparams : d.parameters = before ++ after) (hdisjoint : before.Disjoint after) {inline : Nat}
    (hi : inline ≤ (before.filterMap d.constraintOn).length) :
    k.assemble d' inline = k.assemble d inline := by
  have hagree : ∀ name ∈ before, d'.constraintFor? name = d.constraintFor? name := fun name hname =>
    h.kept name (hparams ▸ List.mem_append_left _ hname) (hdisjoint hname)
  rw [assemble_eq_pieces, assemble_eq_pieces, h.parts,
    pieces_of_agree k d d' after d.parts before inline hparams hagree hi]

/-! ## What a failed compilation says -/

/-- Where the literals are named, they are so without any constraint. -/
theorem compileBy_of_all_dropped {path : String} {fault : φ} (hv : ∀ o ∈ d.constrained, Accepted check o.2)
    (h : (k.compileBy check d).value = .error (.template path fault)) (hd : d.DropsTo d' fun _ => True) :
    (k.compileBy check d').value = .error (.template path fault) := by
  have hnone : d'.constrained = [] := by
    rw [constrained_eq, hd.parameters]
    exact List.filterMap_eq_nil_iff.2 fun _ hname => hd.constraintOn_dropped hname trivial
  have hsame : k.assemble d' 0 = k.assemble d 0 := by
    rw [assemble_eq_pieces, assemble_eq_pieces, hd.parts, pieces_zero, pieces_zero]
  rcases compileBy_cases hv with ⟨r, hr⟩ | ⟨f, hf, ht⟩ | ⟨i, name, pattern, f, -, -, -, hc⟩
  · rw [hr] at h; cases h
  · rw [ht] at h
    cases h
    rw [← hsame] at hf
    have hlast : check (k.assemble d' d'.constrained.length) = .error fault := by rw [hnone]; exact hf
    rw [compileBy_of_refused (by simp [hnone]) hlast, blame_of_error hf, hd.path]
  · rw [hc] at h; cases h

section Named

variable {before after : List String} {name pattern : String} {fault : φ}

/-- Without the constraint with which the matcher is refused, and those after it, a descriptor
compiles. -/
theorem compileBy_of_dropped (hv : ∀ o ∈ d.constrained, Accepted check o.2)
    (hparams : d.parameters = before ++ after) (hnodup : d.parameters.Nodup)
    (hacc : Accepted check (k.assemble d (before.filterMap d.constraintOn).length))
    (hd : d.DropsTo d' (· ∈ after)) : ∃ r, (k.compileBy check d').value = .ok r := by
  have hdisjoint := List.disjoint_of_nodup_append (hparams ▸ hnodup)
  refine compileBy_of_accepted (fun o ho => hv o (hd.mem_constrained ho)) ?_
  rw [hd.constrained hparams hdisjoint, assemble_of_dropsTo hd hparams hdisjoint (Nat.le_refl _)]
  exact hacc

/-- Without the constraints after the one with which the matcher is refused, that one is named. -/
theorem compileBy_of_later_dropped (hv : ∀ o ∈ d.constrained, Accepted check o.2)
    (hparams : d.parameters = before ++ name :: after) (hnodup : d.parameters.Nodup)
    (hname : d.constraintOn name = some (name, pattern))
    (hacc : ∀ j ≤ (before.filterMap d.constraintOn).length, Accepted check (k.assemble d j))
    (hf : check (k.assemble d ((before.filterMap d.constraintOn).length + 1)) = .error fault)
    (hd : d.DropsTo d' (· ∈ after)) :
    (k.compileBy check d').value = .error (.constraint name pattern fault) := by
  have hparams' : d.parameters = (before ++ [name]) ++ after := by
    rw [hparams, List.append_assoc, List.singleton_append]
  have hdisjoint := List.disjoint_of_nodup_append (hparams' ▸ hnodup)
  have hkept : (before ++ [name]).filterMap d.constraintOn =
      before.filterMap d.constraintOn ++ [(name, pattern)] := by
    rw [List.filterMap_append, List.filterMap_cons_some hname, List.filterMap_nil]
  have hconstrained : d'.constrained = before.filterMap d.constraintOn ++ [(name, pattern)] :=
    (hd.constrained hparams' hdisjoint).trans hkept
  have hsame : ∀ j ≤ (before.filterMap d.constraintOn).length + 1, k.assemble d' j = k.assemble d j :=
    fun j hj => assemble_of_dropsTo hd hparams' hdisjoint (by rw [hkept]; simpa using hj)
  have hlast : check (k.assemble d' d'.constrained.length) = .error fault := by
    rw [hconstrained, List.length_append, List.length_singleton, hsame _ (Nat.le_refl _)]
    exact hf
  rw [compileBy_of_refused (fun o ho => hv o (hd.mem_constrained ho)) hlast]
  -- the constraint that is last now completes the first refused source
  obtain ⟨program, h0⟩ : Accepted check (k.assemble d' 0) := hsame 0 (Nat.zero_le _) ▸ hacc 0 (Nat.zero_le _)
  rw [blame_of_ok h0, hconstrained]
  refine congrArg _ (culpritAmong_of_least _ fault [] _ 1 (fun j hj => ?_) ?_)
  · rw [hsame _ (by omega)]; exact hacc _ (by omega)
  · rw [hsame _ (by omega), Nat.add_comm]; exact hf

end Named

/-- A failed compilation says what to do, for every compiler and checker and every descriptor whose
parameters have different names and constraints that are accepted by themselves.
(a) If the literals are named, they are named without any constraint too, with the same fault.
(b) If the constraint of a parameter is named, the descriptor compiles without it and the constraints
of the parameters after it; and without only the latter, it is named again.
(c) So if the descriptor compiles without any constraint, only a constraint can be named. -/
theorem compileBy_dropping_blamed {k : Compiler} {check : Checker φ} {d : Descriptor}
    (hnodup : d.parameters.Nodup) (hv : ∀ o ∈ d.constrained, Accepted check o.2) :
    (∀ path fault, (k.compileBy check d).value = .error (.template path fault) →
      ∀ d', d.DropsTo d' (fun _ => True) → (k.compileBy check d').value = .error (.template path fault)) ∧
    (∀ name pattern fault, (k.compileBy check d).value = .error (.constraint name pattern fault) →
      ∃ before after, d.parameters = before ++ name :: after ∧
        (∀ d', d.DropsTo d' (· ∈ name :: after) → ∃ r, (k.compileBy check d').value = .ok r) ∧
        ∀ d', d.DropsTo d' (· ∈ after) →
          (k.compileBy check d').value = .error (.constraint name pattern fault)) ∧
    ∀ d' r, d.DropsTo d' (fun _ => True) → (k.compileBy check d').value = .ok r →
      ∀ e, (k.compileBy check d).value = .error e → ∃ name pattern fault, e = .constraint name pattern fault := by
  refine ⟨fun path fault h d' hd => compileBy_of_all_dropped hv h hd, fun name pattern fault h => ?_,
    fun d' r hd hr e he => ?_⟩
  · rcases compileBy_cases hv with ⟨r, hr⟩ | ⟨f, -, ht⟩ | ⟨i, name', pattern', f, ho, hacc, hf, hc⟩
    · rw [hr] at h; cases h
    · rw [ht] at h; cases h
    · rw [hc] at h
      cases h
      -- from the place among the constraints to the place in the template
      obtain ⟨before, after, hparams, hname, rfl⟩ := exists_parameters_of_constrained ho
      exact ⟨before, after, hparams,
        fun d' hd => compileBy_of_dropped hv hparams hnodup (hacc _ (Nat.le_refl _)) hd,
        fun d' hd => compileBy_of_later_dropped hv hparams hnodup hname hacc hf hd⟩
  · rcases compileBy_cases hv with ⟨r', hr'⟩ | ⟨f, -, ht⟩ | ⟨i, name, pattern, f, -, -, -, hc⟩
    · rw [hr'] at he; cases he
    · have hdropped := compileBy_of_all_dropped hv ht hd
      rw [hr] at hdropped; cases hdropped
    · rw [hc] at he; cases he
      exact ⟨name, pattern, f, rfl⟩

/-- Three labels, with constraints on the first ones. -/
def labelPath (constraints : List String) : Descriptor :=
  (["x", "y", "z"].zip constraints).foldl (fun d c => d.constraint c.1 c.2)
    (((((Descriptor.ofVerb "GET").parameter "x").literal "/").parameter "y").literal "/" |>.parameter "z")

/-- The second constraint gives its group the name that the first has given, so it is named. Without
it and the third the labels compile, and without only the third it is named again. -/
theorem clash_remedied : ∃ fault,
    (labelPath ["(?P<n>[0-9]+)", "(?P<n>[a-z]+)", "new"]).parameters.Nodup ∧
    (∀ o ∈ (labelPath ["(?P<n>[0-9]+)", "(?P<n>[a-z]+)", "new"]).constrained,
      Accepted Pattern.compile o.2) ∧
    (({} : Compiler).compileBy Pattern.compile (labelPath ["(?P<n>[0-9]+)", "(?P<n>[a-z]+)", "new"])).value =
      .error (.constraint "y" "(?P<n>[a-z]+)" fault) ∧
    (∃ r, (({} : Compiler).compileBy Pattern.compile (labelPath ["(?P<n>[0-9]+)"])).value = .ok r) ∧
    (({} : Compiler).compileBy Pattern.compile (labelPath ["(?P<n>[0-9]+)", "(?P<n>[a-z]+)"])).value =
      .error (.constraint "y" "(?P<n>[a-z]+)" fault) := by
  generalize hd : labelPath ["(?P<n>[0-9]+)", "(?P<n>[a-z]+)", "new"] = d
  have hnodup : d.parameters.Nodup := by rw [← hd]; decide
  have hv : ∀ o ∈ d.constrained, Accepted Pattern.compile o.2 := by
    have hall : ∀ o ∈ d.constrained, (Pattern.compile o.2).isOk = true := by rw [← hd]; decide +kernel
    exact fun o ho => exists_ok_of_isOk (hall o ho)
  have hfails : (({} : Compiler).compileBy Pattern.compile d).value =
      .error (.constraint "y" "(?P<n>[a-z]+)" .malformed) :=
    error_of_map_error (by rw [← hd]; decide +kernel)
  obtain ⟨before, after, hparams, hdropped, hlater⟩ := (compileBy_dropping_blamed hnodup hv).2.1 _ _ _ hfails
  obtain rfl : after = ["z"] := by
    have hxyz : d.parameters = ["x", "y", "z"] := by rw [← hd]; rfl
    rw [hxyz] at hparams
    rcases before with _ | ⟨x, _ | ⟨y, _ | ⟨z, before⟩⟩⟩ <;> simp at hparams
    exact hparams.2.symm
  refine ⟨.malformed, hnodup, hv, hfails, hdropped _ ?_, hlater _ ?_⟩ <;> rw [← hd] <;>
    exact ⟨rfl, rfl, rfl, by decide +kernel, by decide +kernel⟩

end Compiler
end RouteTable
