import GuestHost.Proofs.Modes.Calls

/-!
# The two modes are equivalent

A guest that makes texts, arrays and file streams, works on them and calls natives on them cannot tell
in which mode it is hosted. What it asks for is a list of demands, in which an argument is a plain
value or a value that an earlier demand gave.

* `Demand.perform`, `play` — what a host answers to one demand and to several;
* `Demand.Fits`, `Host.Fit` — every argument is of the kind that is expected, or plain;
* `endAlike_perform` — one demand does the same in both modes;
* `agree_of_build` — hosts that were just built are alike;
* `modes_equivalent` — any number of demands do the same in both modes, under one correspondence of
  references and handles.
-/

namespace GuestHost

/-! ## Demands -/

/-- An argument of a demand. -/
inductive Input
  /-- Null or a primitive. -/
  | plain (v : Value) (hv : v.isPlain = true)
  /-- A value that an earlier demand gave, in the order in which they were given. -/
  | earlier (i : Nat)

/-- The value of an argument, given those that earlier demands gave; null if there are too few. -/
def Input.value (pool : List Value) : Input → Value
  | .plain v _ => v
  | .earlier i => (pool[i]?).getD .null

/-- What a guest asks for. -/
inductive Demand
  | newText (kind : TextKind) (contents : String)
  | text (x : Input)
  | setText (x : Input) (contents : String)
  | newArray (items : List Input)
  | arrayLength (x : Input)
  | arrayGet (x : Input) (i : Nat)
  | arraySet (x : Input) (i : Nat) (item : Input)
  | arrayValues (x : Input)
  | descriptor (x : Input)
  | setDescriptor (x : Input) (number : Int32)
  | newStream (sort : StreamSort)
  /-- A native, with the placeholder that it is called with where the mode wants one. -/
  | native (owner key : String) (placeholder : Value) (args : List Input)

namespace Demand

/-- The process of an operation. -/
def ask (op : Op Body) : Process Reply := op.apply.toProcess

/-- What a host does for a demand. A stream is a new object of its class in direct mode and an object
of the module in exported mode. -/
def perform (pool : List Value) : Demand → Process Reply
  | .newText kind contents => ask (.newText kind contents)
  | .text x => ask (.text (x.value pool))
  | .setText x contents => ask (.setText (x.value pool) contents)
  | .newArray items => ask (.newArray (items.map (Input.value pool)))
  | .arrayLength x => ask (.arrayLength (x.value pool))
  | .arrayGet x i => ask (.arrayGet (x.value pool) i)
  | .arraySet x i item => ask (.arraySet (x.value pool) i (item.value pool))
  | .arrayValues x => ask (.arrayValues (x.value pool))
  | .descriptor x => ask (.descriptor (x.value pool))
  | .setDescriptor x number => ask (.setDescriptor (x.value pool) number)
  | .newStream sort => do
    match (← get).mode with
    | .direct => ask (.allocate sort.cls)
    | .exported => ask .newStream
  | .native owner key placeholder args => do
    return .value (← Host.callPassing owner key placeholder (args.map (Input.value pool)))

end Demand

/-- The values that an answer gives. -/
def Reply.given : Reply → List Value
  | .value v => [v]
  | .values vs? => vs?.getD []
  | _ => []

/-- The values that a result gives. -/
def givenBy : Except Fault Reply → List Value
  | .ok reply => reply.given
  | .error _ => []

/-- What a host answers to demands, and the host afterwards; `pool` are the values that earlier demands
gave. -/
def play (h : Host) (pool : List Value) : List Demand → Option (List (Except Fault Reply) × Host)
  | [] => some ([], h)
  | r :: rest =>
    match (r.perform pool).apply h with
    | none => none
    | some (result, h') =>
      match play h' (pool ++ givenBy result) rest with
      | none => none
      | some (results, h'') => some (result :: results, h'')

/-! ## Kinds of arguments -/

/-- The kind of an object of a module. -/
def ArenaEntry.kind : ArenaEntry → ObjectKind
  | .text _ _ => .text
  | .array _ => .array
  | .stream _ => .stream

/-- The kind of the object that a handle leads to, in a host with a module in memory. -/
def Host.kindOf? (h : Host) (v : Value) : Option ObjectKind :=
  match v, h.attached with
  | .handle n, some (.arena a) => (a.get? n).map ArenaEntry.kind
  | _, _ => none

/-- Whether a value is plain or of the kind that is expected, if there is one. -/
def Host.Suits (h : Host) (expected : Option ObjectKind) (v : Value) : Prop :=
  ∀ k ∈ expected, v.isPlain = true ∨ h.kindOf? v = some k

/-- Every argument is plain or of the kind that is expected. -/
def Demand.Fits (h : Host) (pool : List Value) : Demand → Prop
  | .text x | .setText x _ => h.Suits (some .text) (x.value pool)
  | .arrayLength x | .arrayGet x _ | .arraySet x _ _ | .arrayValues x =>
    h.Suits (some .array) (x.value pool)
  | .descriptor x | .setDescriptor x _ => h.Suits (some .stream) (x.value pool)
  | .native owner key _ args => owner ∈ Builtin.commonOwners ∧
    ∀ i, (hi : i < args.length) → h.Suits (nativeKindAt owner key i) (args[i].value pool)
  | .newText _ _ | .newArray _ | .newStream _ => True

/-- Every argument of demands that a host answers one after the other is of the kind that is expected. -/
def Host.Fit (h : Host) (pool : List Value) : List Demand → Prop
  | [] => True
  | r :: rest => r.Fits h pool ∧
    match (r.perform pool).apply h with
    | none => True
    | some (result, h') => h'.Fit (pool ++ givenBy result) rest

instance (h : Host) (expected : Option ObjectKind) (v : Value) : Decidable (h.Suits expected v) :=
  inferInstanceAs (Decidable (∀ k ∈ expected, v.isPlain = true ∨ h.kindOf? v = some k))

instance decidableFits (h : Host) (pool : List Value) : (r : Demand) → Decidable (r.Fits h pool)
  | .text x | .setText x _ => inferInstanceAs (Decidable (h.Suits (some .text) (x.value pool)))
  | .arrayLength x | .arrayGet x _ | .arraySet x _ _ | .arrayValues x =>
    inferInstanceAs (Decidable (h.Suits (some .array) (x.value pool)))
  | .descriptor x | .setDescriptor x _ =>
    inferInstanceAs (Decidable (h.Suits (some .stream) (x.value pool)))
  | .native owner key _ args => inferInstanceAs (Decidable (owner ∈ Builtin.commonOwners ∧
    ∀ i, (hi : i < args.length) → h.Suits (nativeKindAt owner key i) (args[i].value pool)))
  | .newText _ _ | .newArray _ | .newStream _ => inferInstanceAs (Decidable True)

instance decidableFit (h : Host) (pool : List Value) : (demands : List Demand) →
    Decidable (h.Fit pool demands)
  | [] => inferInstanceAs (Decidable True)
  | r :: rest =>
    have : Decidable (match (r.perform pool).apply h with
        | none => True
        | some (result, h') => h'.Fit (pool ++ givenBy result) rest) :=
      match (r.perform pool).apply h with
      | none => inferInstanceAs (Decidable True)
      | some (result, h') => decidableFit h' (pool ++ givenBy result) rest
    inferInstanceAs (Decidable (_ ∧ _))

/-! ## One demand -/

variable {links links' : List Link} {hd he : Host} {pool pool' : List Value}

/-- Answers in the two modes that say the same. -/
inductive Corresponds (links : List Link) : Reply → Reply → Prop
  | done : Corresponds links .done .done
  | number (n : Int) : Corresponds links (.number n) (.number n)
  | text (s : String) : Corresponds links (.text s) (.text s)
  | value {v w : Value} (h : Relates links none v w) : Corresponds links (.value v) (.value w)
  | values {vs ws : List Value} (h : List.Forall₂ (Relates links none) vs ws) :
    Corresponds links (.values (some vs)) (.values (some ws))

theorem Corresponds.mono {x y : Reply} (h : Corresponds links x y) (hsub : links ⊆ links') :
    Corresponds links' x y := by
  cases h with
  | done => exact .done
  | number n => exact .number n
  | text s => exact .text s
  | value h => exact .value (h.mono hsub)
  | values h => exact .values (forall₂_mono h hsub)

theorem Corresponds.given {x y : Reply} (h : Corresponds links x y) :
    List.Forall₂ (Relates links none) x.given y.given := by
  cases h with
  | done | number | text => exact .nil
  | value h => exact .cons h .nil
  | values h => exact h

theorem forall₂_givenBy {x y : Except Fault Reply} (h : ResultMatch (Corresponds links) x y) :
    List.Forall₂ (Relates links none) (givenBy x) (givenBy y) := by
  cases h with
  | ok h => exact h.given
  | error => exact .nil

/-- Arguments are related if the values that earlier demands gave are. -/
theorem Input.relates (hpool : List.Forall₂ (Relates links none) pool pool') (x : Input) :
    Relates links none (x.value pool) (x.value pool') := by
  cases x with
  | plain v hv => exact .plain hv
  | earlier i =>
    show Relates links none (pool[i]?.getD .null) (pool'[i]?.getD .null)
    by_cases hi : i < pool.length
    · have hi' : i < pool'.length := hpool.length_eq ▸ hi
      rw [List.getElem?_eq_getElem hi, List.getElem?_eq_getElem hi']
      exact hpool.get hi hi'
    · rw [List.getElem?_eq_none (by omega),
        List.getElem?_eq_none (by rw [← hpool.length_eq]; omega)]
      exact .plain rfl

theorem Input.relates_map (hpool : List.Forall₂ (Relates links none) pool pool')
    (xs : List Input) :
    List.Forall₂ (Relates links none) (xs.map (Input.value pool))
      (xs.map (Input.value pool')) := by
  rw [List.forall₂_map_left_iff, List.forall₂_map_right_iff, List.forall₂_same]
  exact fun x _ => x.relates hpool

/-- The object of the module at the end of a link has the kind of the link. -/
theorem Agree.kindOf?_eq {l : Link} (hagree : Agree links hd he) (hl : l ∈ links) :
    he.kindOf? (.handle l.handle) = some l.kind := by
  obtain ⟨a, ha, hstores⟩ := hagree.stores
  unfold Host.kindOf?
  rw [ha]
  cases hk : l.kind with
  | text =>
    obtain ⟨kind, contents, -, hget⟩ := hstores.text hl hk
    simp only [hget, Option.map_some, ArenaEntry.kind]
  | array =>
    obtain ⟨xs, ys, -, hget, -⟩ := hstores.array hl hk
    simp only [hget, Option.map_some, ArenaEntry.kind]
  | stream =>
    obtain ⟨n, -, hget⟩ := hstores.stream hl hk
    simp only [hget, Option.map_some, ArenaEntry.kind]

/-- A value of the kind that is expected is related as such. -/
theorem Relates.of_suits {v w : Value} {expected : Option ObjectKind}
    (h : Relates links none v w) (hagree : Agree links hd he) (hsuits : he.Suits expected w) :
    Relates links expected v w := by
  cases h with
  | plain hv => exact .plain hv
  | @linked l hl _ =>
    refine .linked hl fun k hk => ?_
    rcases hsuits k hk with hplain | hkind
    · cases hplain
    · rw [hagree.kindOf?_eq hl] at hkind
      exact Option.some.inj hkind

/-- An operation that is answered with what an action gives. -/
theorem Steps.runs_reply {α β : Type} {R : α → β → Prop} {a : Action α} {b : Action β} {f : α → Reply}
    {g : β → Reply} (h : Steps links R a b)
    (hfg : ∀ x y, R x y → Corresponds links (f x) (g y)) :
    Runs links Corresponds (a >>= fun x => pure (f x)).toProcess
      (b >>= fun y => pure (g y)).toProcess :=
  (Steps.creates (R := Corresponds) (h.bind fun x y hxy => steps_pure (hfg x y hxy))).runs

/-- An operation that is answered with the object that an action creates. -/
theorem Creates.runs_value {a b : Action Value}
    (h : Creates links (fun links' => Relates links' none) a b) :
    Runs links Corresponds (a >>= fun v => pure (.value v)).toProcess
      (b >>= fun w => pure (.value w)).toProcess :=
  (Creates.map h fun _ _ _ _ hvw => Corresponds.value hvw).runs

theorem runs_newStream (sort : StreamSort) :
    Runs links Corresponds (Demand.perform pool (.newStream sort))
      (Demand.perform pool' (.newStream sort)) := by
  intro hd he hagree hroom
  have hdirect : (Demand.perform pool (.newStream sort)).apply hd
      = (Demand.ask (.allocate sort.cls)).apply hd := by
    unfold Demand.perform
    rw [Process.apply_bind, Process.apply_get]
    simp only [hagree.direct]
  have hexported : (Demand.perform pool' (.newStream sort)).apply he
      = (Demand.ask .newStream).apply he := by
    unfold Demand.perform
    rw [Process.apply_bind, Process.apply_get]
    simp only [hagree.exported]
  unfold EndAlike
  rw [hdirect, hexported]
  exact (creates_newStream sort).runs_value hd he hagree hroom

/-- **One demand** does the same in both modes. -/
theorem endAlike_perform (hagree : Agree links hd he) (hroom : Room 1 hd he)
    (hpool : List.Forall₂ (Relates links none) pool pool') {r : Demand}
    (hfits : r.Fits he pool') :
    EndAlike links Corresponds (r.perform pool) (r.perform pool') hd he := by
  have hinput : ∀ (x : Input) (k : Option ObjectKind), he.Suits k (x.value pool') →
      Relates links k (x.value pool) (x.value pool') :=
    fun x k hsuits => (x.relates hpool).of_suits hagree hsuits
  suffices hruns : Runs links Corresponds (r.perform pool) (r.perform pool') from
    hruns hd he hagree hroom
  cases r with
  | newText kind contents => exact (creates_newText kind contents).runs_value
  | text x =>
    refine (steps_text (hinput x _ hfits)).runs_reply ?_
    rintro s _ rfl
    exact .text s
  | setText x contents =>
    exact (steps_setText (hinput x _ hfits) contents).runs_reply fun _ _ _ => .done
  | newArray items => exact (creates_newArray (Input.relates_map hpool items)).runs_value
  | arrayLength x =>
    refine (steps_arrayLength (hinput x _ hfits)).runs_reply ?_
    rintro n _ rfl
    exact .number n
  | arrayGet x i => exact (steps_arrayGet (hinput x _ hfits) i).runs_reply fun _ _ h => .value h
  | arraySet x i item =>
    have hitem := item.relates hpool
    exact (steps_arraySet (hinput x _ hfits) i hitem).runs_reply fun _ _ _ => .done
  | arrayValues x =>
    exact (steps_arrayValues (hinput x _ hfits)).runs_reply fun _ _ h => .values h
  | descriptor x =>
    refine (steps_descriptor (hinput x _ hfits)).runs_reply ?_
    rintro n _ rfl
    exact .number n.toInt
  | setDescriptor x number =>
    have hcreates := creates_setDescriptor (hinput x _ hfits) number
    exact (hcreates.map fun _ _ _ _ _ => Corresponds.done).runs
  | newStream sort => exact runs_newStream sort
  | native owner key placeholder args =>
    obtain ⟨howner, hkinds⟩ := hfits
    have hargs : ArgsRelate links (nativeKindAt owner key) (args.map (Input.value pool))
        (args.map (Input.value pool')) := by
      refine ⟨by rw [List.length_map, List.length_map], ?_⟩
      intro i v w hv hw
      rw [List.getElem?_map, Option.map_eq_some_iff] at hv hw
      obtain ⟨x, hx, rfl⟩ := hv
      obtain ⟨x', hx', rfl⟩ := hw
      obtain rfl : x = x' := Option.some.inj (hx.symm.trans hx')
      obtain ⟨hi, rfl⟩ := List.getElem?_eq_some_iff.1 hx
      exact hinput _ _ (hkinds i hi)
    exact (runs_native howner hargs placeholder placeholder).map fun _ _ _ h => Corresponds.value h

/-! ## Any number of demands -/

/-- Demands do the same in both modes, from hosts that have linked objects already. -/
theorem play_corresponds {demands : List Demand} (hagree : Agree links hd he)
    (hroom : Room demands.length hd he) (hpool : List.Forall₂ (Relates links none) pool pool')
    (hfit : he.Fit pool' demands) :
    ∃ links' xs hd' ys he', play hd pool demands = some (xs, hd') ∧
      play he pool' demands = some (ys, he') ∧ links ⊆ links' ∧ Agree links' hd' he' ∧
      List.Forall₂ (ResultMatch (Corresponds links')) xs ys := by
  induction demands generalizing links hd he pool pool' with
  | nil => exact ⟨links, _, _, _, _, rfl, rfl, List.Subset.refl links, hagree, .nil⟩
  | cons r rest ih =>
    rw [List.length_cons, Nat.add_comm] at hroom
    obtain ⟨hfits, hrest⟩ := hfit
    obtain ⟨links₁, x, hd₁, y, he₁, hx, hy, hsub₁, hresult, hagree₁, hgrows⟩ :=
      endAlike_perform hagree hroom.one hpool hfits
    have hpool₁ : List.Forall₂ (Relates links₁ none) (pool ++ givenBy x) (pool' ++ givenBy y) :=
      List.rel_append (forall₂_mono hpool hsub₁) (forall₂_givenBy hresult)
    simp only [hy] at hrest
    -- The links only grow, so what was answered so far corresponds under those at the end, too.
    obtain ⟨links₂, xs, hd₂, ys, he₂, hxs, hys, hsub₂, hagree₂, hresults⟩ :=
      ih hagree₁ (hgrows.room hroom) hpool₁ hrest
    refine ⟨links₂, x :: xs, hd₂, y :: ys, he₂, ?_, ?_, List.Subset.trans hsub₁ hsub₂, hagree₂, ?_⟩
    · simp only [play, hx, hxs]
    · simp only [play, hy, hys]
    · exact .cons (hresult.imp fun _ _ hc => hc.mono hsub₂) hresults

/-- A host that was just built has what its setup says. -/
theorem exists_of_build {s : Setup} {h : Host} (hbuild : s.build = .ok h) :
    ∃ source, s.fileSource = .ok source ∧
      h = { config := s.config, heap := .empty, registry := CoreClass.registry, linkage := .empty,
            files := match s.config.mode with
              | .direct => FileTable.empty.enable
              | .exported => FileTable.empty
            source, imports := s.imports, attached := s.attached,
            surroundings := s.surroundings } := by
  unfold Setup.build at hbuild
  cases hvalid : s.config.validate with
  | error flaw => simp [hvalid] at hbuild
  | ok _ =>
    cases hsource : s.fileSource with
    | error fault => simp [hvalid, hsource] at hbuild
    | ok source =>
      refine ⟨source, rfl, ?_⟩
      simp only [hvalid, hsource] at hbuild
      split at hbuild
      · cases hbuild
      · exact (Except.ok.inj hbuild).symm

/-- The host has the classes of file streams. -/
theorem exists_streamClass (sort : StreamSort) :
    ∃ c, CoreClass.registry.get sort.cls = .ok c := by
  have hsome : (CoreClass.registry.get? sort.cls).isSome = true := by
    cases sort <;> decide +kernel
  obtain ⟨c, hc⟩ := Option.isSome_iff_exists.1 hsome
  exact ⟨c, by rw [Registry.get, hc]⟩

/-- Hosts that were just built are alike, once the files of the one in exported mode are enabled. -/
theorem agree_of_build {s s' : Setup} {a : Arena} (hbuild : s.build = .ok hd)
    (hbuild' : s'.build = .ok he) (hmode : s.config.mode = .direct)
    (hmode' : s'.config.mode = .exported) (hsource : s'.fileSource = s.fileSource)
    (himports : s.imports = .standard) (himports' : s'.imports = .standard)
    (hattached : s'.attached = some (.arena a)) :
    Agree [] hd { he with files := he.files.enable } := by
  obtain ⟨source, hsource₁, rfl⟩ := exists_of_build hbuild
  obtain ⟨source', hsource₂, rfl⟩ := exists_of_build hbuild'
  obtain rfl : source' = source := by
    rw [hsource, hsource₁] at hsource₂
    exact (Except.ok.inj hsource₂).symm
  refine ⟨hmode, hmode', ?_, rfl, himports, himports', exists_streamClass, a, hattached, stores_nil⟩
  simp only [hmode, hmode']

/-- **The two modes are equivalent.** Hosts in direct and in exported mode that have the same files, the
same source of files and the host's own natives answer the same demands, each of which takes plain
values and values of the kind that it expects from earlier answers. As long as references and handles,
which are 32-bit, suffice for one object a demand, both answer all of them, and there is one list of
links, in which no reference and no handle occurs twice, such that answer by answer they give equal
primitives and texts and the two ends of a link, or meet faults of the same kind. -/
theorem modes_equivalent {demands : List Demand} (hagree : Agree [] hd he)
    (hroom : Room demands.length hd he) (hfit : he.Fit [] demands) :
    ∃ links results hd' results' he', play hd [] demands = some (results, hd') ∧
      play he [] demands = some (results', he') ∧ OneToOne links ∧ Agree links hd' he' ∧
      List.Forall₂ (ResultMatch (Corresponds links)) results results' := by
  obtain ⟨links, results, hd', results', he', hplay, hplay', -, hagree', hresults⟩ :=
    play_corresponds hagree hroom .nil hfit
  obtain ⟨a, -, hstores⟩ := hagree'.stores
  exact ⟨links, results, hd', results', he', hplay, hplay', hstores.oneToOne, hagree', hresults⟩

/-- A guest that reads a byte of a file, writes it as a text and asks for an element that an array
lacks. -/
theorem modes_equivalent_for_reader :
    let host : Host :=
      { config := {}, heap := .empty, registry := CoreClass.registry, linkage := .empty,
        files := FileTable.empty.enable, source := .staged (.ofList [("a", [55, 8])]),
        imports := .standard, attached := none, surroundings := { millis := 0, seed := 0 } }
    let arena : Module := .arena (.empty "guest")
    let host' : Host := { host with config := { mode := .exported }, attached := some arena }
    let demands : List Demand :=
      [.newStream .input, .newText .string "a",
        .native "java.io.FileInputStream" "I$open0$Ljava$lang$String$" .null
          [.earlier 0, .earlier 1],
        .native "java.io.FileInputStream" "I$read0$$" .null [.earlier 0],
        .native "java.lang.Character" "Ljava$lang$String$$toString$C" .null [.earlier 3],
        .newArray [.earlier 4], .arrayGet (.earlier 5) 0, .arrayGet (.earlier 5) 1]
    (play host [] demands).map (·.1)
      = some [.ok (.value (.ref ⟨0⟩)), .ok (.value (.ref ⟨1⟩)), .ok (.value (.int 3)),
          .ok (.value (.int 55)), .ok (.value (.ref ⟨3⟩)), .ok (.value (.ref ⟨4⟩)),
          .ok (.value (.ref ⟨3⟩)), .error (.argument (.arrayIndex 1 1))] ∧
      (play host' [] demands).map (·.1)
        = some [.ok (.value (.handle 0)), .ok (.value (.handle 1)), .ok (.value (.int 3)),
            .ok (.value (.int 55)), .ok (.value (.handle 2)), .ok (.value (.handle 3)),
            .ok (.value (.handle 2)), .error (.argument (.index 1 1))] ∧
      ∃ links results hd' results' he', play host [] demands = some (results, hd') ∧
        play host' [] demands = some (results', he') ∧ OneToOne links ∧ Agree links hd' he' ∧
        List.Forall₂ (ResultMatch (Corresponds links)) results results' := by
  intro host arena host' demands
  let setup : Setup :=
    { config := {}, source := some host.source, imports := .standard, attached := none,
      outside := .nothing, surroundings := { millis := 0, seed := 0 } }
  have hbuild : setup.build = .ok host := rfl
  have hbuild' : (setup.around arena).build = .ok { host' with files := FileTable.empty } := rfl
  have hagree : Agree [] host host' := agree_of_build hbuild hbuild' rfl rfl rfl rfl rfl rfl
  have hroom : Room demands.length host host' := by
    constructor <;> decide
  have hfit : host'.Fit [] demands := by decide +kernel
  exact ⟨by decide +kernel, by decide +kernel, modes_equivalent hagree hroom hfit⟩

end GuestHost
