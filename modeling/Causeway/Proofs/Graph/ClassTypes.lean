import Causeway.Graph.Assembly

/-!
# What a registry of types looks up

A registry is told by the classes that it has and the types that it gives (`ClassTypes.ext_iff`).
Registering adds a type only where there is none, and merging falls back on the other registry
(`typeOf?_merge`); so it makes no difference whether something is registered before or after another
registry is put in front (`merge_register`).
-/

namespace Causeway.ClassTypes

variable {t u : ClassTypes}

theorem contains_ensureClass (t : ClassTypes) (new cls : String) :
    NameMap.contains (t.ensureClass new) cls = (NameMap.contains t cls || cls == new) := by
  unfold ensureClass NameMap.contains
  rw [NameMap.get?_insertNew]
  by_cases hcls : cls = new <;> simp [hcls]

theorem typeOf?_ensureClass (t : ClassTypes) (new cls property : String) :
    (t.ensureClass new).typeOf? cls property = t.typeOf? cls property := by
  unfold ensureClass typeOf?
  rw [NameMap.get?_insertNew]
  cases NameMap.get? t cls with
  | none => by_cases hcls : cls = new <;> simp [hcls]
  | some properties => rfl

theorem contains_register (t : ClassTypes) (new name cls : String) (type : SemanticType) :
    NameMap.contains (t.register new name type) cls = (NameMap.contains t cls || cls == new) := by
  rw [Bool.or_comm]
  exact NameMap.contains_insert t new cls _

/-- The type that a property has already stays. -/
theorem typeOf?_register (t : ClassTypes) (new name cls property : String) (type : SemanticType) :
    (t.register new name type).typeOf? cls property =
      (t.typeOf? cls property).or (if cls = new ∧ property = name then some type else none) := by
  unfold typeOf? register NameMap.update
  rw [NameMap.get?_insert]
  by_cases hcls : cls = new
  · subst hcls
    simp only [if_true, Option.bind_some, NameMap.get?_insertNew, true_and]
    cases NameMap.get? t cls <;> rfl
  · simp [hcls]

/-- Registries of the same classes and types are equal. -/
theorem ext_iff : t = u ↔ (∀ cls, NameMap.contains t cls = NameMap.contains u cls) ∧
    ∀ cls property, t.typeOf? cls property = u.typeOf? cls property := by
  constructor
  · rintro rfl
    exact ⟨fun _ => rfl, fun _ _ => rfl⟩
  · rintro ⟨hclasses, htypes⟩
    refine NameMap.ext fun cls => ?_
    have hcls := hclasses cls
    have hproperties := htypes cls
    unfold NameMap.contains at hcls
    unfold typeOf? at hproperties
    cases ht : NameMap.get? t cls with
    | none =>
      rw [ht] at hcls
      exact (Option.not_isSome_iff_eq_none.mp (by simp [← hcls])).symm
    | some p =>
      rw [ht] at hcls hproperties
      obtain ⟨q, hu⟩ := Option.isSome_iff_exists.mp hcls.symm
      rw [hu] at hproperties ⊢
      exact congrArg some (NameMap.ext hproperties)

/-! ### Merging -/

/-- Registers some properties of a class one after the other. -/
def registerAll (t : ClassTypes) (cls : String) (types : List (String × SemanticType)) :
    ClassTypes :=
  types.foldl (fun t e => t.register cls e.1 e.2) t

theorem contains_registerAll {new : String} (hknown : NameMap.contains t new = true)
    (types : List (String × SemanticType)) (cls : String) :
    NameMap.contains (t.registerAll new types) cls = NameMap.contains t cls := by
  unfold registerAll
  induction types generalizing t with
  | nil => rfl
  | cons p types ih =>
    rw [List.foldl_cons, ih (by simp [contains_register]), contains_register]
    by_cases hcls : cls = new
    · simp [hcls, hknown]
    · simp [hcls]

theorem typeOf?_registerAll (t : ClassTypes) (new : String) (types : List (String × SemanticType))
    (cls property : String) :
    (t.registerAll new types).typeOf? cls property =
      (t.typeOf? cls property).or (if cls = new then Entries.get? property types else none) := by
  unfold registerAll
  induction types generalizing t with
  | nil => simp [Entries.get?]
  | cons p types ih =>
    rw [List.foldl_cons, ih, typeOf?_register, Option.or_assoc]
    by_cases hcls : cls = new
    · by_cases hname : property = p.1 <;> simp [hcls, hname, Entries.get?]
    · simp [hcls]

/-- Adds one class of another registry with its types. -/
def mergeClass (t : ClassTypes) (e : String × NameMap SemanticType) : ClassTypes :=
  (t.ensureClass e.1).registerAll e.1 e.2.entries

theorem contains_mergeClass (t : ClassTypes) (e : String × NameMap SemanticType) (cls : String) :
    NameMap.contains (t.mergeClass e) cls = (NameMap.contains t cls || cls == e.1) := by
  rw [mergeClass, contains_registerAll (by simp [contains_ensureClass]), contains_ensureClass]

theorem typeOf?_mergeClass (t : ClassTypes) (e : String × NameMap SemanticType)
    (cls property : String) :
    (t.mergeClass e).typeOf? cls property =
      (t.typeOf? cls property).or (if cls = e.1 then e.2.get? property else none) := by
  rw [mergeClass, typeOf?_registerAll, typeOf?_ensureClass]
  rfl

theorem contains_merge (t u : ClassTypes) (cls : String) :
    NameMap.contains (t.merge u) cls = (NameMap.contains t cls || NameMap.contains u cls) := by
  suffices h : ∀ (l : List (String × NameMap SemanticType)) (t : ClassTypes),
      NameMap.contains (l.foldl mergeClass t) cls =
        (NameMap.contains t cls || (Entries.get? cls l).isSome) from h u.entries t
  intro l
  induction l with
  | nil => simp [Entries.get?]
  | cons e l ih =>
    intro t
    rw [List.foldl_cons, ih, contains_mergeClass, Bool.or_assoc]
    by_cases hcls : cls = e.1
    · simp [hcls, Entries.get?]
    · have hne : (cls == e.1) = false := by simpa using hcls
      simp [hcls, hne, Entries.get?]

/-- Types that are not there come from the other registry. -/
theorem typeOf?_merge (t u : ClassTypes) (cls property : String) :
    (t.merge u).typeOf? cls property = (t.typeOf? cls property).or (u.typeOf? cls property) := by
  suffices h : ∀ (l : List (String × NameMap SemanticType)) (t : ClassTypes), Entries.Ordered l →
      (l.foldl mergeClass t).typeOf? cls property =
        (t.typeOf? cls property).or ((Entries.get? cls l).bind (·.get? property)) from
    h u.entries t u.ordered
  intro l
  induction l with
  | nil => simp [Entries.get?]
  | cons e l ih =>
    intro t hordered
    obtain ⟨hfirst, hrest⟩ := List.pairwise_cons.mp hordered
    rw [List.foldl_cons, ih _ hrest, typeOf?_mergeClass, Option.or_assoc]
    by_cases hcls : cls = e.1
    · -- no later entry is of this class
      subst hcls
      have hlast : Entries.get? e.1 l = none := Entries.get?_eq_none_of_lt hfirst
      simp [hlast, Entries.get?]
    · simp [hcls, Entries.get?]

theorem merge_assoc (t u v : ClassTypes) : (t.merge u).merge v = t.merge (u.merge v) := by
  apply ext_iff.mpr
  simp only [contains_merge, typeOf?_merge, Bool.or_assoc, Option.or_assoc, implies_true, and_self]

theorem empty_merge (t : ClassTypes) : merge NameMap.empty t = t := by
  refine ext_iff.mpr ⟨fun cls => ?_, fun cls property => ?_⟩
  · rw [contains_merge, NameMap.contains_empty, Bool.false_or]
  · rw [typeOf?_merge]
    exact Option.none_or

/-- What a registry has already is not merged into it again. -/
theorem merge_merge_self (t u : ClassTypes) : (t.merge u).merge t = t.merge u := by
  refine ext_iff.mpr ⟨fun cls => ?_, fun cls property => ?_⟩
  · rw [contains_merge, contains_merge]
    cases NameMap.contains t cls <;> simp
  · rw [typeOf?_merge, typeOf?_merge]
    cases t.typeOf? cls property <;> simp

theorem merge_ensureClass (t u : ClassTypes) (cls : String) :
    t.merge (u.ensureClass cls) = (t.merge u).ensureClass cls := by
  refine ext_iff.mpr ⟨fun other => ?_, fun other property => ?_⟩
  · rw [contains_merge, contains_ensureClass, contains_ensureClass, contains_merge, Bool.or_assoc]
  · rw [typeOf?_merge, typeOf?_ensureClass, typeOf?_ensureClass, typeOf?_merge]

theorem merge_register (t u : ClassTypes) (cls property : String) (type : SemanticType) :
    t.merge (u.register cls property type) = (t.merge u).register cls property type := by
  refine ext_iff.mpr ⟨fun other => ?_, fun other name => ?_⟩
  · rw [contains_merge, contains_register, contains_register, contains_merge, Bool.or_assoc]
  · rw [typeOf?_merge, typeOf?_register, typeOf?_register, typeOf?_merge, Option.or_assoc]

end Causeway.ClassTypes

namespace Causeway.Graph

/-! ### Registering the properties of an element -/

namespace NativeProperty

/-- An occurrence of a property. Those in which a data source keeps edges are none. -/
def isOf (name : String) (p : NativeProperty) : Bool := p.name == name && !p.isBookkeeping

/-- Whether the type of a property can be told from this occurrence. -/
def isTyped (p : NativeProperty) : Bool := p.nativeType.isSome || p.value.isScalar

/-- The declared type, else the one of the value. -/
def type (p : NativeProperty) : SemanticType :=
  match p.nativeType with
  | some declared => .ofName declared
  | none => .ofValue p.value

theorem semanticType?_eq (p : NativeProperty) :
    p.semanticType? = if p.isTyped then some p.type else none := by
  unfold semanticType? isTyped type
  cases p.nativeType <;> simp

end NativeProperty

/-- The type of the first occurrence that has one. -/
def typeOfFirst? (properties : List NativeProperty) (name : String) : Option SemanticType :=
  (properties.find? fun p => p.isOf name && p.isTyped).map NativeProperty.type

theorem contains_registerProperties (t : ClassTypes) (label cls : String)
    (properties : List NativeProperty) :
    NameMap.contains (registerProperties t label properties) cls =
      (NameMap.contains t cls || cls == label) := by
  unfold registerProperties
  rw [← ClassTypes.contains_ensureClass]
  have hlabel : NameMap.contains (t.ensureClass label) label = true := by
    simp [ClassTypes.contains_ensureClass]
  generalize t.ensureClass label = u at hlabel
  induction properties.filter (!·.isBookkeeping) generalizing u with
  | nil => rfl
  | cons p properties ih =>
    rw [List.foldl_cons]
    cases p.semanticType? with
    | none => exact ih u hlabel
    | some type =>
      have hkept : ∀ c, NameMap.contains (u.register label p.name type) c = NameMap.contains u c := by
        intro c
        rw [ClassTypes.contains_register]
        by_cases hc : c = label <;> simp [hc, hlabel]
      dsimp only
      rw [ih _ ((hkept label).trans hlabel), hkept]

theorem typeOfFirst?_append (properties others : List NativeProperty) (name : String) :
    typeOfFirst? (properties ++ others) name =
      (typeOfFirst? properties name).or (typeOfFirst? others name) := by
  rw [typeOfFirst?, List.find?_append, Option.map_or]
  rfl

theorem typeOfFirst?_cons (p : NativeProperty) (properties : List NativeProperty) (name : String) :
    typeOfFirst? (p :: properties) name =
      (if p.isOf name && p.isTyped then some p.type else none).or (typeOfFirst? properties name) := by
  rw [typeOfFirst?, List.find?_cons]
  cases p.isOf name && p.isTyped <;> rfl

theorem typeOf?_registerProperties (t : ClassTypes) (label : String)
    (properties : List NativeProperty) (cls name : String) :
    (registerProperties t label properties).typeOf? cls name =
      (t.typeOf? cls name).or (if cls = label then typeOfFirst? properties name else none) := by
  unfold registerProperties
  rw [← ClassTypes.typeOf?_ensureClass t label]
  generalize t.ensureClass label = u
  induction properties generalizing u with
  | nil => simp [typeOfFirst?]
  | cons p properties ih =>
    rw [typeOfFirst?_cons, NativeProperty.isOf]
    cases hkept : p.isBookkeeping with
    | true => rw [List.filter_cons_of_neg (by simp [hkept]), ih]; simp
    | false =>
      rw [List.filter_cons_of_pos (by simp [hkept]), List.foldl_cons, ih, p.semanticType?_eq]
      cases htyped : p.isTyped with
      | true =>
        simp only [if_true, ClassTypes.typeOf?_register, Option.or_assoc]
        by_cases hcls : cls = label <;> simp [hcls, eq_comm (a := name)]
      | false => simp

end Causeway.Graph
