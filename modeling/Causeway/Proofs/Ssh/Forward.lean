import Causeway.Proofs.Number.Digits
import Causeway.Proofs.Ssh.Arguments
import Causeway.Proofs.Text.Words

/-!
# What the client is asked for

A forward is written in four fields with colons between them, and colons inside square brackets belong to
their field. It is read back exactly if the server is one field wherever it stands
(`fieldsOf_forwardSpec_iff`). Validation looks neither at the server nor at how a gateway begins, so a
valid descriptor may be misread; `asksFor_iff` says when it is not.
-/

namespace Causeway.Ssh

/-! ### Fields -/

/-- Whether what follows a character is inside square brackets. -/
def bracketed (inside : Bool) (c : Char) : Bool := c == '[' || inside && c != ']'

/-- The characters with whether they stand inside square brackets. -/
def placed : Bool → List Char → List (Char × Bool)
  | _, [] => []
  | inside, c :: s => (c, inside) :: placed (bracketed inside c) s

def divides (p : Char × Bool) : Bool := p.1 == ':' && !p.2

/-- The texts between the colons outside square brackets. -/
def fields (s : List Char) : List (List Char) :=
  (Text.splitWhen divides (placed false s)).map fun w => w.map Prod.fst

def fieldsOf (s : String) : List String := (fields s.toList).map String.ofList

/-- A text that is one field wherever it stands: its colons are inside square brackets, and these are
closed. -/
structure OneField (s : List Char) : Prop where
  undivided : ∀ p ∈ placed false s, divides p = false
  closed : s.foldl bracketed false = false

variable {s t : List Char}

theorem placed_append (inside : Bool) (s t : List Char) :
    placed inside (s ++ t) = placed inside s ++ placed (s.foldl bracketed inside) t := by
  induction s generalizing inside with
  | nil => rfl
  | cons c s ih => exact congrArg ((c, inside) :: ·) (ih _)

theorem map_fst_placed (inside : Bool) (s : List Char) : (placed inside s).map Prod.fst = s := by
  induction s generalizing inside with
  | nil => rfl
  | cons c s ih => exact congrArg (c :: ·) (ih _)

theorem oneField_of_plain (h : ∀ c ∈ s, c ≠ ':' ∧ c ≠ '[') : OneField s := by
  have hplain : (∀ p ∈ placed false s, divides p = false) ∧ s.foldl bracketed false = false := by
    induction s with
    | nil => exact ⟨fun p hp => absurd hp List.not_mem_nil, rfl⟩
    | cons c s ih =>
      obtain ⟨⟨hcolon, hopen⟩, hrest⟩ := List.forall_mem_cons.mp h
      have hinside : bracketed false c = false := by simp [bracketed, hopen]
      rw [placed, List.foldl_cons, hinside, List.forall_mem_cons]
      exact ⟨⟨by simp [divides, hcolon], (ih hrest).1⟩, (ih hrest).2⟩
  exact ⟨hplain.1, hplain.2⟩

theorem oneField_toString (n : Nat) : OneField (toString n).toList := by
  refine oneField_of_plain fun c hc => ?_
  rw [Nat.toString_eq_ofList_toDigits, String.toList_ofList] at hc
  obtain ⟨hlow, hhigh⟩ := Number.bounds_of_mem_toDigits hc
  constructor <;> rintro rfl
  · exact absurd hhigh (by decide)
  · exact absurd hhigh (by decide)

namespace OneField

theorem fields_eq (hs : OneField s) : fields s = [s] := by
  rw [fields, Text.splitWhen_of_forall_not hs.undivided, List.map_singleton, map_fst_placed]

theorem fields_append (hs : OneField s) (t : List Char) :
    fields (s ++ ':' :: t) = s :: fields t := by
  have hcolon : divides (':', false) = true := rfl
  rw [fields, placed_append, hs.closed, placed, Text.splitWhen_append_cons hs.undivided hcolon,
    List.map_cons, map_fst_placed]
  rfl

/-- A text that comes back as the first field is one. -/
theorem of_fields_append {ws : List (List Char)} (h : fields (s ++ ':' :: t) = s :: ws) :
    OneField s := by
  rw [fields, placed_append, placed] at h
  obtain ⟨w, vs, hsplit, hw, -⟩ := List.map_eq_cons_iff.mp h
  have hlength : w.length = (placed false s).length := by
    rw [← List.length_map Prod.fst, hw, ← List.length_map Prod.fst, map_fst_placed]
  rcases Text.cases_of_splitWhen_eq_cons hsplit with hall | ⟨p, r, hcut, hp⟩
  · have htoo := congrArg List.length hall
    rw [List.length_append, List.length_cons] at htoo
    omega
  · -- the first piece is the text with its places, and the colon behind it divides
    obtain ⟨rfl, hrest⟩ := List.append_inj hcut hlength.symm
    obtain ⟨rfl, -⟩ := List.cons.inj hrest
    have hfirst : placed false s ∈ placed false s :: vs := List.mem_cons_self
    rw [← hsplit] at hfirst
    exact ⟨fun q hq => (Text.mem_of_mem_splitWhen hfirst hq).2, by simpa [divides] using hp⟩

end OneField

theorem toList_forwardSpec (localPort host : String) (port : UInt16) :
    (forwardSpec localPort host port).toList =
      "127.0.0.1".toList ++ ':' :: (localPort.toList ++ ':' :: (host.toList ++ ':' ::
        (toString port.toNat).toList)) := by
  simp [forwardSpec]

theorem fieldsOf_forwardSpec_iff (localPort : UInt16) (host : String) (port : UInt16) :
    fieldsOf (forwardSpec (toString localPort.toNat) host port) =
        ["127.0.0.1", toString localPort.toNat, host, toString port.toNat] ↔
      OneField host.toList := by
  have haddress : OneField "127.0.0.1".toList := oneField_of_plain (by simp)
  have hlocal := oneField_toString localPort.toNat
  have hport := oneField_toString port.toNat
  have hfields : fieldsOf (forwardSpec (toString localPort.toNat) host port) =
      "127.0.0.1" :: toString localPort.toNat ::
        (fields (host.toList ++ ':' :: (toString port.toNat).toList)).map String.ofList := by
    rw [fieldsOf, toList_forwardSpec, haddress.fields_append, hlocal.fields_append]
    simp only [List.map_cons, String.ofList_toList]
  rw [hfields]
  constructor
  · intro h
    obtain ⟨w, ws, hw, hhost, -⟩ :=
      List.map_eq_cons_iff.mp (List.cons.inj (List.cons.inj h).2).2
    rw [← String.toList_ofList (l := w), hhost] at hw
    exact OneField.of_fields_append hw
  · intro h
    rw [h.fields_append, hport.fields_eq]
    simp only [List.map_cons, List.map_nil, String.ofList_toList]

/-! ### Command lines -/

/-- What a master is asked for, its destination apart. -/
def masterRequest (c : Config) (socket : String) (t : SshTarget) : List (Char × Option String) :=
  [('M', none), ('S', some socket), ('N', none)] ++ masterOptions.map (fun o => ('o', some o)) ++
    [('i', some c.privateKey), ('p', some (toString t.port.toNat)), ('l', some t.user)]

/-- The command lines of a session with the options that each is to be read as. -/
def commandLines (c : Config) (socket : String) (t : SshTarget) (spec : String) :
    List (List String × List (Char × Option String)) := [
  (masterArguments c socket t, masterRequest c socket t),
  (checkArguments socket t, [('S', some socket), ('O', some "check")]),
  (forwardArguments socket t spec, [('S', some socket), ('O', some "forward"), ('L', some spec)])]

variable {c : Config} {socket spec : String} {target : SshTarget}
  {line : List String × List (Char × Option String)}

theorem eq_written_of_mem_commandLines (h : line ∈ commandLines c socket target spec) :
    line.1 = line.2.flatMap written ++ [target.gateway] := by
  simp only [commandLines, List.mem_cons, List.not_mem_nil, or_false] at h
  rcases h with rfl | rfl | rfl
  · simp [masterArguments, masterRequest, masterOptions, written]
  · simp [checkArguments, written]
  · simp [forwardArguments, written]

theorem isOption_of_mem_commandLines (h : line ∈ commandLines c socket target spec) :
    ∀ o ∈ line.2, IsOption o := by
  have hmaster : ∀ o ∈ masterRequest c socket target, IsOption o := by
    simp only [masterRequest, masterOptions, List.map_cons, List.map_nil, List.forall_mem_append,
      List.forall_mem_cons, List.not_mem_nil, false_implies, implies_true, and_true, IsOption]
    decide
  have hsocket : 'S' ∈ valueLetters := by decide
  have hcommand : 'O' ∈ valueLetters := by decide
  have hlocal : 'L' ∈ valueLetters := by decide
  simp only [commandLines, List.mem_cons, List.not_mem_nil, or_false] at h
  rcases h with rfl | rfl | rfl
  · exact hmaster
  · simpa [IsOption] using ⟨hsocket, hcommand⟩
  · simpa [IsOption] using ⟨hsocket, hcommand, hlocal⟩

theorem readArguments_commandLine (h : line ∈ commandLines c socket target spec)
    (hgateway : ¬Dashed target.gateway) :
    readArguments none line.1 = some ⟨line.2, [target.gateway]⟩ := by
  rw [eq_written_of_mem_commandLines h, readArguments_written (isOption_of_mem_commandLines h),
    readArguments_of_not_dashed hgateway, Option.map_some, Asked.add, List.append_nil]

/-- The client is asked for what a descriptor says: each command line leads to the gateway, which is
there and cannot be taken for an option, and the forward has its four fields. -/
structure AsksFor (c : Config) (socket : String) (t : Tunnel) (ds : DataSource) (localPort : UInt16) :
    Prop where
  commandLines : ∀ line ∈ commandLines c socket (t.target ds)
      (forwardSpec (toString localPort.toNat) ds.server ds.port),
    readArguments none line.1 = some ⟨line.2, [ds.gateway]⟩
  gateway : Text.isBlankText ds.gateway = false ∧ ¬Dashed ds.gateway
  port : ds.sshPort ≠ 0
  forward : fieldsOf (forwardSpec (toString localPort.toNat) ds.server ds.port) =
    ["127.0.0.1", toString localPort.toNat, ds.server, toString ds.port.toNat]

/-- For a valid remote descriptor the client is asked rightly exactly if the gateway begins with no dash
and the server is one field. A gateway of a dash and more is no destination on any command line. -/
theorem asksFor_iff {ds : DataSource} (hremote : ds.remote = true) (hvalid : ds.validate = .ok ())
    (c : Config) (socket : String) (t : Tunnel) (localPort : UInt16) :
    (AsksFor c socket t ds localPort ↔ ¬Dashed ds.gateway ∧ OneField ds.server.toList) ∧
      (Dashed ds.gateway → ds.gateway ≠ "-" → ∀ spec,
        ∀ line ∈ commandLines c socket (t.target ds) spec, destination? line.1 = none) := by
  obtain ⟨hblank, hport⟩ :=
    (DataSource.validateRemote_eq_ok_iff hremote).mp (DataSource.validateRemote_of_validate hvalid)
  refine ⟨⟨fun h => ?_, ?_⟩, ?_⟩
  · exact ⟨h.gateway.2, (fieldsOf_forwardSpec_iff localPort ds.server ds.port).mp h.forward⟩
  · rintro ⟨hdash, hserver⟩
    exact {
      commandLines := fun line hline => readArguments_commandLine hline hdash
      gateway := ⟨hblank, hdash⟩
      port := hport
      forward := (fieldsOf_forwardSpec_iff localPort ds.server ds.port).mpr hserver }
  · intro hdash hlone spec line hline
    rw [eq_written_of_mem_commandLines hline]
    exact destination?_of_dashed hdash hlone (isOption_of_mem_commandLines hline)

/-- A database behind a gateway that goes by its address. -/
def bridged (gateway server : String) : DataSource where
  id := 7
  type := "mysql"
  name := "warehouse"
  server := server
  port := 5432
  remote := true
  gateway := gateway

def bridge : Tunnel where
  connector := Client.connector {} (.ok 4000) ⟨.ok (), .ok (), [.ready]⟩ 0 ""
  defaultUser := "player"

/-- Addresses with colons are read rightly where the server is in brackets. -/
theorem asksFor_bridged :
    (bridged "2001:db8::7" "[fd00::5]").remote = true ∧
      (bridged "2001:db8::7" "[fd00::5]").validate = .ok () ∧
      AsksFor {} "s.sock" bridge (bridged "2001:db8::7" "[fd00::5]") 4000 := by
  have hvalid : (bridged "2001:db8::7" "[fd00::5]").validate = .ok () := rfl
  have hplain : ¬Dashed (bridged "2001:db8::7" "[fd00::5]").gateway ∧
      OneField (bridged "2001:db8::7" "[fd00::5]").server.toList :=
    ⟨by decide, by decide, by decide⟩
  exact ⟨rfl, hvalid, (asksFor_iff rfl hvalid {} "s.sock" bridge 4000).1.mpr hplain⟩

/-- Validation lets a server through that is cut into three fields, and a gateway that is read as an
option, so that the client is given no destination. -/
theorem not_asksFor_bridged :
    (bridged "bastion" "::1").validate = .ok () ∧
      fieldsOf (forwardSpec "4000" "::1" 5432) = ["127.0.0.1", "4000", "", "", "1", "5432"] ∧
      ¬AsksFor {} "s.sock" bridge (bridged "bastion" "::1") 4000 ∧
      (bridged "-v" "db.internal").validate = .ok () ∧
      (readArguments none (checkArguments "s.sock" (bridge.target (bridged "-v" "db.internal")))) =
        some ⟨[('S', some "s.sock"), ('O', some "check"), ('v', none)], []⟩ ∧
      ¬AsksFor {} "s.sock" bridge (bridged "-v" "db.internal") 4000 := by
  have hfields : fieldsOf (forwardSpec "4000" "::1" 5432) =
      ["127.0.0.1", "4000", "", "", "1", "5432"] := by decide
  refine ⟨rfl, hfields, fun h => ?_, rfl, by decide, fun h => ?_⟩
  · exact absurd (hfields.symm.trans h.forward) (by decide)
  · exact h.gateway.2 (by decide)

end Causeway.Ssh
