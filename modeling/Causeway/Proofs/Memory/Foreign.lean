import Causeway.Memory.Provider
import Causeway.Proofs.ElementId
import Causeway.Proofs.Memory.Answers
import Causeway.Proofs.Memory.Index
import Causeway.Proofs.Number.Digits

/-!
# Ids of other data sources

A composite id begins with the number of its data source up to the first underscore, so no data source
takes an id of another (`IdScheme.decode_encode_of_ne`). A request with ids is answered only if all of
them can be decoded. So one id that a dataset handed out for another data source is enough for the
request to fail (`Datasets.serve_rejects_foreign`).
-/

namespace Causeway

namespace IdScheme

variable {scheme : IdScheme} {dataSource other : Int} {ids : List String} {id first : String}

theorem underscore_not_mem_toString (n : Int) : '_' ∉ (toString n).toList := by
  have hdigits : ∀ m : Nat, '_' ∉ m.repr.toList := by
    intro m hmem
    rw [Nat.repr, String.toList_ofList] at hmem
    exact absurd (Nat.isDigit_of_mem_toDigits (by decide) (Nat.le_refl 10) hmem) (by decide)
  cases n with
  | ofNat m => exact hdigits m
  | negSucc m =>
    change '_' ∉ ("-" ++ m.succ.repr).toList
    rw [String.toList_append, List.mem_append, not_or]
    exact ⟨by decide, hdigits m.succ⟩

theorem takeWhile_start_append (dataSource : Int) (s : List Char) :
    (start dataSource ++ s).takeWhile (fun c => c ≠ '_') = (toString dataSource).toList := by
  have hnumber : ∀ c ∈ (toString dataSource).toList, decide (c ≠ '_') = true := by
    intro c hc
    exact decide_eq_true fun heq => underscore_not_mem_toString dataSource (heq ▸ hc)
  rw [start, List.append_assoc, List.takeWhile_append_of_pos hnumber, List.singleton_append,
    List.takeWhile_cons_of_neg (by simp), List.append_nil]

/-- The number of the data source can be read off an id, whatever is embedded behind it. -/
theorem eq_of_start_append_eq {s t : List Char}
    (h : start dataSource ++ s = start other ++ t) : dataSource = other := by
  have htext : (toString dataSource).toList = (toString other).toList := by
    rw [← takeWhile_start_append dataSource s, h, takeWhile_start_append]
  have hread := congrArg Number.readInt htext
  rw [Number.readInt_toString, Number.readInt_toString] at hread
  exact Option.some.inj hread

theorem decode_encode_of_ne (hne : other ≠ dataSource) (scheme : IdScheme) (native : String) :
    scheme.decode dataSource (scheme.encode other native) =
      .error (.invalidId (scheme.encode other native) dataSource) := by
  have hnone : Text.withoutStart? (start dataSource)
      (start other ++ scheme.sanitizeChars native.toList) = none := by
    refine if_neg fun hprefix => ?_
    obtain ⟨rest, hrest⟩ := List.isPrefixOf_iff_prefix.mp hprefix
    exact hne (eq_of_start_append_eq hrest).symm
  unfold decode encode
  rw [String.toList_ofList, hnone]

/-! ### Lists of ids -/

/-- The first id that cannot be decoded. -/
def firstInvalid? (scheme : IdScheme) (dataSource : Int) (ids : List String) : Option String :=
  ids.find? fun id => !(scheme.decode dataSource id).isOk

theorem firstInvalid?_append (scheme : IdScheme) (dataSource : Int) (ids others : List String) :
    scheme.firstInvalid? dataSource (ids ++ others) =
      (scheme.firstInvalid? dataSource ids).or (scheme.firstInvalid? dataSource others) :=
  List.find?_append

theorem exists_firstInvalid? (hid : id ∈ ids) {e : Error}
    (hinvalid : scheme.decode dataSource id = .error e) :
    ∃ first, scheme.firstInvalid? dataSource ids = some first := by
  refine Option.isSome_iff_exists.mp (List.find?_isSome.mpr ⟨id, hid, ?_⟩)
  rw [hinvalid]
  rfl

theorem exists_decodeAll_eq_ok (h : scheme.firstInvalid? dataSource ids = none) :
    ∃ natives, scheme.decodeAll dataSource ids = .ok natives := by
  refine ⟨_, decodeAll_of_ok fun id hid => ?_⟩
  have hok := List.find?_eq_none.mp h id hid
  cases hdecode : scheme.decode dataSource id with
  | ok native => exact ⟨native, rfl⟩
  | error e =>
    rw [hdecode] at hok
    exact absurd rfl hok

end IdScheme

namespace Graph

/-- The ids in an element: its own, and those of its ends if it is an edge. -/
def Element.handles (x : Element) : List String := x.id :: (x.source.toList ++ x.target.toList)

def handles (g : Graph) : List String :=
  (g.nodes.toList ++ g.edges.toList).flatMap Element.handles

/-- The ids of elements in a request, in the order in which they are decoded. -/
def Request.ids : Request → List String
  | .expand ids _ _ _ | .load ids => ids
  | .between sources _ targets => sources ++ targets
  | .query _ _ | .ofClass _ _ _ | .probe => []

namespace Assembler

variable {a : Assembler}

theorem encode_ingest (a : Assembler) (xs : List NativeElement) :
    (a.ingest xs).encode = a.encode := by
  induction xs generalizing a with
  | nil => rfl
  | cons x xs ih =>
    rw [Assembler.ingest]
    split
    · rfl
    · rw [ih]
      cases x <;> rfl

/-- All ids in the elements so far are composite ids of the assembler's data source. -/
def Encodes (a : Assembler) : Prop :=
  ∀ x ∈ a.result.nodes.toList ++ a.result.edges.toList, ∀ id ∈ x.handles,
    ∃ native, id = a.encode native

theorem Encodes.add (h : a.Encodes) (x : NativeElement) : (a.add x).Encodes := by
  intro y hy id hid
  rcases List.mem_append.mp hy with hnode | hedge
  · cases x with
    | edge e => exact h y (List.mem_append_left _ hnode) id hid
    | vertex v =>
      rcases ElementSet.mem_insert hnode with hold | rfl
      · exact h y (List.mem_append_left _ hold) id hid
      · obtain rfl := List.mem_singleton.mp hid
        exact ⟨v.id, rfl⟩
  · cases x with
    | vertex v => exact h y (List.mem_append_right _ hedge) id hid
    | edge e =>
      rcases ElementSet.mem_insert hedge with hold | rfl
      · exact h y (List.mem_append_right _ hold) id hid
      · -- an edge has three ids
        have hids : id ∈ [e.id, e.source, e.target].map a.encode := hid
        obtain ⟨native, -, hnative⟩ := List.mem_map.mp hids
        exact ⟨native, hnative.symm⟩

theorem Encodes.ingest (h : a.Encodes) (xs : List NativeElement) : (a.ingest xs).Encodes := by
  induction xs generalizing a with
  | nil => exact h
  | cons x xs ih =>
    rw [Assembler.ingest]
    split
    · exact h
    · exact ih (h.add x)

end Assembler

end Graph

namespace Memory

open Causeway.Graph

variable {d : Dataset} {m : Datasets} {ds other : DataSource} {r : Request} {id first : String}

namespace Dataset

/-- All ids in an answer are composite ids of the data source that it was given for. -/
theorem exists_encode_of_mem_handles {g : Graph} (h : d.answer ds r = .ok g) (hid : id ∈ g.handles) :
    ∃ native, id = scheme.encode ds.id native := by
  obtain ⟨limit, xs, -, rfl⟩ := assembled_of_answer h
  have hempty : ((assembler ds).withLimit limit).Encodes := fun x hx =>
    absurd hx List.not_mem_nil
  obtain ⟨x, hx, hid⟩ := List.mem_flatMap.mp hid
  have hencodes := hempty.ingest xs x hx id hid
  rwa [Assembler.encode_ingest] at hencodes

theorem answer_of_firstInvalid? (h : scheme.firstInvalid? ds.id r.ids = some first) :
    d.answer ds r = .error (.invalidId first ds.id) := by
  cases r with
  | query text limit => cases h
  | ofClass cls filter limit => cases h
  | probe => cases h
  | expand ids direction label hops =>
    have hids : scheme.firstInvalid? ds.id ids = some first := h
    rw [answer, expand, IdScheme.decodeAll_of_find? hids]
    rfl
  | load ids =>
    have hids : scheme.firstInvalid? ds.id ids = some first := h
    rw [answer, load, IdScheme.decodeAll_of_find? hids]
    rfl
  | between sources labels targets =>
    rw [Request.ids, IdScheme.firstInvalid?_append] at h
    rw [answer, between]
    -- the sources are decoded first
    cases hsources : scheme.firstInvalid? ds.id sources with
    | some invalid =>
      rw [hsources, Option.some_or] at h
      rw [IdScheme.decodeAll_of_find? hsources, Option.some.inj h]
      rfl
    | none =>
      rw [hsources, Option.none_or] at h
      obtain ⟨natives, hnatives⟩ := IdScheme.exists_decodeAll_eq_ok hsources
      rw [hnatives, IdScheme.decodeAll_of_find? h]
      rfl

/-- So are the ids in front of the sprites of its index. -/
theorem exists_encode_of_first_id {w : List Sprite} (hw : w ∈ (d.script ds).windows) {sprite : Sprite}
    (hsprite : sprite ∈ w) (hid : sprite.first "@id" = .ok (.string id)) :
    ∃ native, id = scheme.encode ds.id native := by
  rw [windows_script] at hw
  obtain ⟨-, -, group, hgroup, hinfix⟩ := mem_indexWindows hw
  have hmem := hinfix.subset hsprite
  rcases List.mem_append.mp hgroup with hvertices | hedges
  · obtain ⟨cls, -, rfl⟩ := List.mem_map.mp hvertices
    obtain ⟨v, -, rfl⟩ := List.mem_map.mp hmem
    rw [first_id_vertexSprite, Except.ok.injEq, Value.string.injEq] at hid
    exact ⟨v.id, hid.symm⟩
  · obtain ⟨cls, -, rfl⟩ := List.mem_map.mp hedges
    obtain ⟨e, -, rfl⟩ := List.mem_map.mp hmem
    rw [first_id_edgeSprite, Except.ok.injEq, Value.string.injEq] at hid
    exact ⟨e.id, hid.symm⟩

end Dataset

namespace Datasets

/-- The id of an element as a data source shows it: in an answer, or in front of a sprite of the
index. -/
inductive HandsOut (m : Datasets) (ds : DataSource) (id : String) : Prop
  | answered {r : Request} {g : Graph} (serves : m.graphService.serve ds r = .ofExcept (.ok g))
    (mem : id ∈ g.handles)
  | indexed {s : Script} {w : List Sprite} {sprite : Sprite}
    (serves : m.indexService.serve ds () = .ofExcept (.ok s)) (window : w ∈ s.windows)
    (mem : sprite ∈ w) (first : sprite.first "@id" = .ok (.string id))

theorem HandsOut.exists_encode (h : m.HandsOut ds id) : ∃ native, id = scheme.encode ds.id native := by
  cases h with
  | answered hserves hid =>
    obtain ⟨d, -, hg⟩ := exists_of_bind_eq_ok (Run.eq_ok_of_ofExcept hserves)
    exact Dataset.exists_encode_of_mem_handles hg hid
  | indexed hserves hw hsprite hid =>
    have hscript := Run.eq_ok_of_ofExcept hserves
    cases hfind : m.find ds with
    | error e =>
      rw [hfind] at hscript
      cases hscript
    | ok d =>
      rw [hfind] at hscript
      obtain rfl := Except.ok.inj hscript
      exact Dataset.exists_encode_of_first_id hw hsprite hid

/-- No data source decodes the ids of another. All ids that a data source shows are ids of its own;
and a request to another one with such an id in it fails, whatever the other ids are, over the first of
them that cannot be decoded. -/
theorem serve_rejects_foreign :
    (∀ (scheme : IdScheme) (a b : Int) (native : String), a ≠ b →
        scheme.decode b (scheme.encode a native) = .error (.invalidId (scheme.encode a native) b)) ∧
      ∀ (m : Datasets) (ds other : DataSource), ds.id ≠ other.id → (m.find ds).isOk = true →
        (∀ id, m.HandsOut other id → ∃ native, id = scheme.encode other.id native) ∧
        ∀ (r : Request) (native : String), scheme.encode other.id native ∈ r.ids →
          ∃ first ∈ r.ids, scheme.firstInvalid? ds.id r.ids = some first ∧
            m.graphService.serve ds r = .ofExcept (.error (.invalidId first ds.id)) := by
  refine ⟨fun scheme a b native hne => IdScheme.decode_encode_of_ne hne scheme native, ?_⟩
  intro m ds other hne hfound
  refine ⟨fun id hid => hid.exists_encode, fun r native hmem => ?_⟩
  have hforeign := IdScheme.decode_encode_of_ne hne.symm scheme native
  obtain ⟨first, hfirst⟩ := IdScheme.exists_firstInvalid? hmem hforeign
  refine ⟨first, List.mem_of_find?_eq_some hfirst, hfirst, ?_⟩
  cases hfind : m.find ds with
  | error e =>
    rw [hfind] at hfound
    cases hfound
  | ok d =>
    rw [serve_graphService hfind, Dataset.answer_of_firstInvalid? hfirst]
    rfl

/-- One city, for data sources of any number. -/
def atlases : Datasets := NameMap.ofList [("atlas", { vertices := [{ id := "#1:0", cls := "City" }] })]

def numbered (id : Int) : DataSource := { id, type := tag, name := "atlas", database := "atlas" }

theorem serve_rejects_foreign_numbered :
    (11 : Int) ≠ 1 ∧ (-1 : Int) ≠ 1 ∧ (atlases.find (numbered 1)).isOk = true ∧
      atlases.HandsOut (numbered 11) "11_1_0" ∧
      atlases.graphService.serve (numbered 1) (.load ["1_1_0", "11_1_0"]) =
        .ofExcept (.error (.invalidId "11_1_0" 1)) ∧
      atlases.graphService.serve (numbered 1) (.between ["1_1_0"] [] ["-1_1_0", "11_1_0"]) =
        .ofExcept (.error (.invalidId "-1_1_0" 1)) := by
  have hfound : (atlases.find (numbered 1)).isOk = true := rfl
  have heleven := (serve_rejects_foreign.2 atlases (numbered 1) (numbered 11) (by decide) hfound).2
  have hnegative := (serve_rejects_foreign.2 atlases (numbered 1) (numbered (-1)) (by decide) hfound).2
  refine ⟨by decide, by decide, hfound, ?_, ?_, ?_⟩
  · have hserves : atlases.graphService.serve (numbered 11) (.query allClasses 0) = .ofExcept (.ok _) :=
      rfl
    exact .answered hserves (by decide)
  · obtain ⟨first, -, hfirst, hserve⟩ := heleven (.load ["1_1_0", "11_1_0"]) "#1:0" (by decide)
    have heq : scheme.firstInvalid? 1 ["1_1_0", "11_1_0"] = some "11_1_0" := by decide
    rw [hserve, Option.some.inj (hfirst.symm.trans heq)]
    rfl
  · obtain ⟨first, -, hfirst, hserve⟩ :=
      hnegative (.between ["1_1_0"] [] ["-1_1_0", "11_1_0"]) "#1:0" (by decide)
    have heq : scheme.firstInvalid? 1 ["1_1_0", "-1_1_0", "11_1_0"] = some "-1_1_0" := by decide
    rw [hserve, Option.some.inj (hfirst.symm.trans heq)]
    rfl

end Datasets

end Memory

end Causeway
