/-
Literals cut in other places. A template says the same however its literal text is cut into parts, be it
within an escape, a group or a class: compiling joins the texts of the parts and never looks at one literal
by itself. Whatever cannot tell where literals are cut (`Seamless`) is the same of a template and of its
parts with empty literals dropped and adjacent ones merged (`Seamless.merged`), and all that a compilation
looks at is of this kind. So two descriptors whose parts become the same in this way are compiled with the
same result and the same events (`compileBy_eq_of_merged`).
-/
import RouteTable.Proofs.Descriptor.Calls

namespace RouteTable

variable {φ : Type}

/-! ## Merging literals -/

namespace TemplatePart

/-- Puts a part before others; of two literals that meet, one is made. -/
def meet : TemplatePart → List TemplatePart → List TemplatePart
  | literal text, literal rest :: parts => literal (text ++ rest) :: parts
  | part, parts => part :: parts

/-- The parts without empty literals, every run of adjacent literals merged into one. -/
def merged (parts : List TemplatePart) : List TemplatePart :=
  (parts.filter (· ≠ literal "")).foldr meet []

/-- What is read off a list of parts does not tell where its literals are cut. -/
structure Seamless {α : Type} (read : List TemplatePart → α) : Prop where
  cons : ∀ part {parts parts'}, read parts = read parts' → read (part :: parts) = read (part :: parts')
  empty : ∀ parts, read (literal "" :: parts) = read parts
  cut : ∀ text rest parts, read (literal text :: literal rest :: parts) = read (literal (text ++ rest) :: parts)

variable {α : Type} {read : List TemplatePart → α}

theorem Seamless.meet (h : Seamless read) (part : TemplatePart) (parts : List TemplatePart) :
    read (part.meet parts) = read (part :: parts) := by
  cases part with
  | parameter name => rfl
  | format => rfl
  | literal text =>
    rcases parts with _ | ⟨_ | _ | _, parts⟩
    · rfl
    · exact (h.cut text _ parts).symm
    · rfl
    · rfl

theorem Seamless.merged (h : Seamless read) : ∀ parts, read (merged parts) = read parts
  | [] => rfl
  | part :: parts => by
    have ih := h.merged parts
    by_cases hpart : part = literal ""
    · subst hpart
      rw [h.empty, ← ih]
      rfl
    · have hkept : TemplatePart.merged (part :: parts) = part.meet (TemplatePart.merged parts) := by
        rw [TemplatePart.merged, List.filter_cons_of_pos (by simpa using hpart), List.foldr_cons]
        rfl
      rw [hkept, h.meet, h.cons part ih]

example : TemplatePart.merged [.literal "/a", .literal "", .literal "b", .parameter "id", .literal ""] =
    [.literal "/ab", .parameter "id"] := by decide

theorem Seamless.eq_of_merged (h : Seamless read) {parts parts' : List TemplatePart}
    (hmerged : TemplatePart.merged parts' = TemplatePart.merged parts) : read parts' = read parts := by
  rw [← h.merged parts', hmerged, h.merged]

end TemplatePart

open TemplatePart

/-! ## What is read off a template -/

theorem Descriptor.seamless_path (d : Descriptor) :
    Seamless fun parts => ({ d with parts } : Descriptor).path where
  cons part _ _ h := by
    simp only [path, List.map_cons, String.join_cons] at h ⊢
    rw [h]
  empty parts := by
    simp only [path, List.map_cons, String.join_cons, display, String.empty_append]
  cut text rest parts := by
    simp only [path, List.map_cons, String.join_cons, display, String.append_assoc]

theorem Descriptor.seamless_parameters (d : Descriptor) :
    Seamless fun parts => ({ d with parts } : Descriptor).parameters where
  cons part _ _ h := by
    simp only [parameters] at h ⊢
    cases part with
    | literal text => exact h
    | format => exact h
    | parameter name => exact congrArg (name :: ·) h
  empty parts := rfl
  cut text rest parts := rfl

/-- The text between the anchors, with any number of constraints in place. -/
theorem Compiler.seamless_pieces (k : Compiler) (constraints : StringMap String) :
    Seamless fun parts (inline : Nat) => String.join (k.pieces constraints inline parts) where
  cons part parts parts' h := by
    have hrest := congrFun h
    funext inline
    cases part with
    | literal text => simp only [pieces, String.join_cons, hrest]
    | format => simp only [pieces, String.join_cons, hrest]
    | parameter name =>
      cases hc : constraints.get? name with
      | none => simp only [pieces, hc, String.join_cons, hrest]
      | some pattern =>
        cases inline with
        | zero => simp only [pieces, hc, String.join_cons, hrest]
        | succ inline => simp only [pieces, hc, String.join_cons, hrest]
  empty parts := by
    funext inline
    simp only [pieces, String.join_cons, String.empty_append]
  cut text rest parts := by
    funext inline
    simp only [pieces, String.join_cons, String.append_assoc]

/-! ## Compiling -/

/-- To a compiler it is the same template. -/
theorem Compiler.relabels_of_merged (k : Compiler) (d : Descriptor) {parts : List TemplatePart}
    (h : merged parts = merged d.parts) : k.Relabels id d { d with parts } where
  verb := rfl
  metadata := rfl
  parameters := (d.seamless_parameters.eq_of_merged h).trans (List.map_id _).symm
  constrained := by
    have hparameters : ({ d with parts } : Descriptor).parameters = d.parameters :=
      d.seamless_parameters.eq_of_merged h
    rw [Descriptor.constrained, hparameters]
    exact (List.map_id _).symm
  assemble inline := by
    have hpieces := congrFun ((k.seamless_pieces d.constraints).eq_of_merged h) inline
    rw [assemble_eq_pieces, assemble_eq_pieces, hpieces]

namespace Descriptor

variable {d d' : Descriptor}

/-- Descriptors that differ only in where their literals are cut are compiled alike, by every compiler and
every checker of patterns, whatever the texts of the literals are and whether or not one of them would be a
pattern by itself. Either both compile, to one and the same route, or both are refused, for the same
constraint or with the same displayed path and with the same fault; and both report the same events. -/
theorem compileBy_eq_of_merged (hverb : d'.verb = d.verb) (hconstraints : d'.constraints = d.constraints)
    (hmetadata : d'.metadata = d.metadata) (hparts : merged d'.parts = merged d.parts) (k : Compiler)
    (check : Checker φ) : k.compileBy check d' = k.compileBy check d := by
  obtain ⟨verb, parts, constraints, metadata⟩ := d'
  obtain rfl : verb = d.verb := hverb
  obtain rfl : constraints = d.constraints := hconstraints
  obtain rfl : metadata = d.metadata := hmetadata
  exact (k.relabels_of_merged d hparts).compileBy_eq (d.seamless_path.eq_of_merged hparts) check

/-- A numbered page under a literal path. -/
def pageUnder (literals : List String) : Descriptor :=
  { verb := "GET", parts := literals.map .literal ++ [.parameter "id", .format]
    constraints := (∅ : StringMap String).insert "id" "[0-9]+$" }

/-- The path is cut within an escape and within a class, and has an empty literal in it. Two of the pieces are
no patterns, and it compiles like the whole. -/
theorem pageUnder_recut :
    merged (pageUnder ["/v1\\", "", ".0/[a-", "z]/"]).parts = merged (pageUnder ["/v1\\.0/[a-z]/"]).parts ∧
    ({} : Compiler).compile (pageUnder ["/v1\\", "", ".0/[a-", "z]/"]) =
      ({} : Compiler).compile (pageUnder ["/v1\\.0/[a-z]/"]) ∧
    (Pattern.compile "/v1\\").isOk = false ∧ (Pattern.compile ".0/[a-").isOk = false ∧
    ((({} : Compiler).compile (pageUnder ["/v1\\", "", ".0/[a-", "z]/"])).value.toOption.map
      (·.matchesPath "/v1.0/x/12")) = some true := by
  generalize hcut : pageUnder ["/v1\\", "", ".0/[a-", "z]/"] = cut
  generalize hwhole : pageUnder ["/v1\\.0/[a-z]/"] = whole
  have hparts : merged cut.parts = merged whole.parts := by rw [← hcut, ← hwhole]; decide
  have hsame : ({} : Compiler).compile cut = ({} : Compiler).compile whole :=
    compileBy_eq_of_merged (by rw [← hcut, ← hwhole]; rfl) (by rw [← hcut, ← hwhole]; rfl)
      (by rw [← hcut, ← hwhole]; rfl) hparts {} Pattern.compile
  exact ⟨hparts, hsame, by decide +kernel, by decide +kernel, by rw [← hcut]; decide +kernel⟩

end Descriptor
end RouteTable
