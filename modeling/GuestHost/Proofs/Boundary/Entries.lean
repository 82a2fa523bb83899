import GuestHost.Host.Startup
import GuestHost.Proofs.Boundary.Transparency

/-!
# The faults that entry points end with

The fault of a failed request reaches the embedder by a detour: the callback keeps it, and the entry point
takes it if the module reports failure in the end. A module may ignore failures, go on, and report any code,
and the callback outlives the entry points, so what it keeps may be old.

* `NativeRequest.answerIn`, `EntryProgram.served` — the same requests without a callback: the outcome of each;
* `EntryProgram.run_of_active` — what a run of an entry point keeps, by the outcomes of its requests;
* `lastFault_foldl_note` — that is the fault of the last one that failed;
* `Callback.Resting` — the callback while no entry point runs;
* `CompiledModule.faults_attributed` — linking and static initialization end with faults of their own.
-/

namespace GuestHost

variable {c : Callback} {name : String} {code : Int32} {outcomes : List (Except Fault Word)}

/-! ## Requests -/

/-- The callback after a request with an outcome. -/
def Callback.note (c : Callback) : Except Fault Word → Callback
  | .ok w => c.answer w
  | .error fault => c.refuse fault

namespace NativeRequest

/-- The outcome of a request on a host, and the host that it leaves. -/
def answerIn (r : NativeRequest) (h : Host) : Option (Except Fault Word × Host) :=
  match r.call with
  | .error fault => some (.error fault, h)
  | .ok asked =>
    ((Host.call asked).apply h).map fun (result, h') => (result.map Word.ofValue, h')

/-- While an entry point runs, a module is told whether a request has an answer, and which, and the callback
notes the outcome. -/
theorem make_of_active (r : NativeRequest) (hc : c.active = true) (h : Host) :
    r.make c h
      = (r.answerIn h).map fun (outcome, h') => (outcome.toOption, c.note outcome, h') := by
  cases hcall : r.call with
  | error fault =>
    rw [make_of_error hc hcall, answerIn, hcall]
    rfl
  | ok asked =>
    rw [make_of_call hc hcall, answerIn, hcall]
    dsimp only
    rcases (Host.call asked).apply h with _ | ⟨_ | _, h'⟩ <;> rfl

/-- While no entry point runs, a request fails, and no host is looked at. -/
theorem make_of_inactive (r : NativeRequest) (hc : c.active = false) (h : Host) :
    r.make c h = some (none, c.refuse (.inModule .outsideCall), h) := by
  simp [make, hc]

end NativeRequest

/-! ## Runs -/

/-- What a module does on a host: its code, the outcomes of its requests, and the host that it leaves. -/
def EntryProgram.served (h : Host) :
    EntryProgram → Option (Int32 × List (Except Fault Word) × Host)
  | .exit code => some (code, [], h)
  | .request r next =>
    match r.answerIn h with
    | none => none
    | some (outcome, h') =>
      ((next outcome.toOption).served h').map fun (code, outcomes, h'') =>
        (code, outcome :: outcomes, h'')

@[simp] theorem Callback.active_note (c : Callback) (outcome : Except Fault Word) :
    (c.note outcome).active = c.active := by
  cases outcome <;> rfl

/-- A run of an entry point notes the outcomes of its requests, one after the other. -/
theorem EntryProgram.run_of_active (p : EntryProgram) (hc : c.active = true) (h : Host) :
    p.run c h
      = (p.served h).map fun (code, outcomes, h') => (code, outcomes.foldl Callback.note c, h') := by
  induction p generalizing c h with
  | exit code => rfl
  | request r next ih =>
    rw [run, served, r.make_of_active hc]
    rcases r.answerIn h with _ | ⟨outcome, h'⟩
    · rfl
    · simp only [Option.map_some]
      rw [ih outcome.toOption (by rw [Callback.active_note, hc]) h', Option.map_map]
      rfl

/-! ## Faults -/

/-- The fault of a request that failed. -/
def faultOf : Except Fault Word → Option Fault
  | .ok _ => none
  | .error fault => some fault

@[simp] theorem faultOf_ok (w : Word) : faultOf (.ok w) = none := rfl

@[simp] theorem faultOf_error (fault : Fault) : faultOf (.error fault) = some fault := rfl

/-- The last fault that was noted is kept, and the one that was kept before if none was noted. -/
theorem lastFault_foldl_note (c : Callback) (outcomes : List (Except Fault Word)) :
    (outcomes.foldl Callback.note c).lastFault
      = (outcomes.filterMap faultOf).getLast?.or c.lastFault := by
  induction outcomes generalizing c with
  | nil => rfl
  | cons outcome rest ih =>
    rw [List.foldl_cons, ih]
    cases outcome with
    | ok w => rfl
    | error fault =>
      rw [List.filterMap_cons_some (faultOf_error fault), List.getLast?_cons]
      cases (rest.filterMap faultOf).getLast? <;> rfl

theorem filterMap_faultOf (h : ∀ outcome ∈ outcomes, outcome.isOk) :
    outcomes.filterMap faultOf = [] := by
  rw [List.filterMap_eq_nil_iff]
  intro outcome hmem
  cases outcome with
  | ok w => exact faultOf_ok w
  | error fault => exact absurd (h _ hmem) Bool.false_ne_true

/-- What an entry point with a name ends with, by the code and the outcomes of its requests. -/
def reported (name : String) (code : Int32) (outcomes : List (Except Fault Word)) :
    Except Fault Unit :=
  if code = 0 then .ok ()
  else .error ((outcomes.filterMap faultOf).getLast?.getD (.inModule (.entry name code)))

theorem reported_eq_ok_iff : reported name code outcomes = .ok () ↔ code = 0 := by
  simp [reported]

theorem reported_of_last {before after : List (Except Fault Word)} {fault : Fault} (hcode : code ≠ 0)
    (hafter : ∀ outcome ∈ after, outcome.isOk) :
    reported name code (before ++ .error fault :: after) = .error fault := by
  rw [reported, if_neg hcode, List.filterMap_append, List.filterMap_cons_some (faultOf_error fault),
    filterMap_faultOf hafter, List.getLast?_concat, Option.getD_some]

theorem reported_of_forall_isOk (hcode : code ≠ 0) (h : ∀ outcome ∈ outcomes, outcome.isOk) :
    reported name code outcomes = .error (.inModule (.entry name code)) := by
  rw [reported, if_neg hcode, filterMap_faultOf h, List.getLast?_nil, Option.getD_none]

namespace EntryProgram

/-- What an entry point with a name ends with on a host, and the host that it leaves. -/
def report (name : String) (p : EntryProgram) (h : Host) : Option (Except Fault Unit × Host) :=
  (p.served h).map fun (code, outcomes, h') => (reported name code outcomes, h')

/-- Whatever the callback has kept, an entry point ends with what its own requests and its code report. -/
theorem enter_eq_report (p : EntryProgram) (name : String) (c : Callback) (h : Host) :
    (p.enter name c h).map (fun (result, _, h') => (result, h')) = p.report name h := by
  unfold enter report
  rw [p.run_of_active rfl]
  rcases p.served h with _ | ⟨code, outcomes, h'⟩
  · rfl
  · simp only [Option.map_some, reported, lastFault_foldl_note, Option.or_none]
    split <;> rfl

/-- An entry point leaves the callback as active as it was. -/
theorem active_of_enter {p : EntryProgram} {h h' : Host} {result : Except Fault Unit} {c' : Callback}
    (henter : p.enter name c h = some (result, c', h')) : c'.active = c.active := by
  unfold enter at henter
  split at henter
  · cases henter
  · dsimp only at henter
    split at henter <;> cases henter <;> rfl

end EntryProgram

/-! ## The callback between entry points -/

/-- A callback that no entry point uses at the moment: entry points of any modules may have ended before, and
requests may have been made in between. -/
inductive Callback.Resting : Callback → Prop
  | idle : Resting .idle
  | entered {c c' : Callback} {p : EntryProgram} {name : String} {h h' : Host}
      {result : Except Fault Unit} (hc : Resting c)
      (henter : p.enter name c h = some (result, c', h')) : Resting c'
  | asked {c c' : Callback} {r : NativeRequest} {h h' : Host} {answer : Option Word} (hc : Resting c)
      (hmake : r.make c h = some (answer, c', h')) : Resting c'

theorem Callback.Resting.inactive (hc : c.Resting) : c.active = false := by
  induction hc with
  | idle => rfl
  | entered _ henter ih => rw [EntryProgram.active_of_enter henter, ih]
  | asked _ hmake ih =>
    rw [NativeRequest.make_of_inactive _ ih] at hmake
    cases hmake
    exact ih

/-- **Faults of a module are those of the entry point that ran.** Linking and static initialization each end
with what their own requests and their own code report, and leave the host that the requests leave; whatever
the callback has kept before, of linking or of an earlier run, does not matter. What they report is success
exactly if the code is zero. Otherwise it is the fault of the last request that failed, or a fault that names
the entry point and the code if none of them did. While no entry point runs, each request fails and leaves
the host as it is. -/
theorem CompiledModule.faults_attributed (m : CompiledModule) (hc : c.Resting) :
    (∀ h, (m.guest.link c h).map (fun (result, _, h') => (result, h'))
      = m.link.report "bytelink_link" h) ∧
    (∀ h, (m.guest.initStatics c h).map (fun (result, _, h') => (result, h'))
      = m.bootstrap.report "bytelink_bootstrap" h) ∧
    (∀ h result c₁ h₁, m.guest.link c h = some (result, c₁, h₁) → c₁.Resting ∧
      ∀ h₂, (m.guest.initStatics c₁ h₂).map (fun (result, _, h') => (result, h'))
        = m.bootstrap.report "bytelink_bootstrap" h₂) ∧
    (∀ name code outcomes, reported name code outcomes = .ok () ↔ code = 0) ∧
    (∀ name code before fault after, code ≠ 0 → (∀ outcome ∈ after, outcome.isOk) →
      reported name code (before ++ .error fault :: after) = .error fault) ∧
    (∀ name code outcomes, code ≠ 0 → (∀ outcome ∈ outcomes, outcome.isOk) →
      reported name code outcomes = .error (.inModule (.entry name code))) ∧
    ∀ (r : NativeRequest) h, r.make c h = some (none, c.refuse (.inModule .outsideCall), h) :=
  ⟨fun h => m.link.enter_eq_report _ c h, fun h => m.bootstrap.enter_eq_report _ c h,
    fun _ _ c₁ _ hlink => ⟨.entered hc hlink, fun h₂ => m.bootstrap.enter_eq_report _ c₁ h₂⟩,
    fun _ _ _ => reported_eq_ok_iff, fun _ _ _ _ _ => reported_of_last,
    fun _ _ _ => reported_of_forall_isOk, fun r h => r.make_of_inactive hc.inactive h⟩

/-- While it is linked, a module makes a request without names and ignores that it fails. Its static
initialization asks for the greater of two ints, at first with a word that stands for no value, and reports
failure although it has the answer in the end. -/
theorem CompiledModule.faults_attributed_ignored :
    let natives : Imports NativeCode :=
      Imports.empty.add "java.lang.Math" "I$max$I$I" .static (.builtin (.math .maxInt))
    let h : Host :=
      { config := { mode := .exported }, heap := .empty, registry := CoreClass.registry,
        linkage := .empty, files := .empty, source := .staged .empty, imports := natives,
        attached := some (.arena (.empty "guest")), surroundings := { millis := 0, seed := 0 } }
    let ask (words : List Word) : NativeRequest :=
      ⟨some (Utf8.ofString "java.lang.Math" ++ [0]), some (Utf8.ofString "I$max$I$I" ++ [0]), words⟩
    let m : CompiledModule :=
      { library := { name := "guest", objects := #[], newAnswers := none }
        link := .request ⟨none, none, []⟩ fun _ => .exit 0
        bootstrap := .request (ask [⟨7, 5⟩]) fun _ =>
          .request (ask [⟨0, 0⟩, ⟨1, 0xFFFFFFFB⟩, ⟨1, 3⟩]) fun _ => .exit 2 }
    Callback.idle.Resting ∧
      (m.guest.link .idle h).map (fun (result, _, h') => (result, h')) = some (.ok (), h) ∧
      ∀ c h', m.guest.link .idle h = some (.ok (), c, h') →
        (m.guest.initStatics c h).map (fun (result, _, h') => (result, h'))
          = some (.error (.inModule (.unknownTag 7)), h) := by
  intro natives h ask m
  obtain ⟨hlink, -, hafter, -⟩ := m.faults_attributed .idle
  have howner := NativeRequest.spells_ofString (s := "java.lang.Math") (by decide) []
  have hkey := NativeRequest.spells_ofString (s := "I$max$I$I") (by decide) []
  have hunknown : (ask [⟨7, 5⟩]).answerIn h = some (.error (.inModule (.unknownTag 7)), h) := by
    rw [NativeRequest.answerIn, NativeRequest.call_of_spells howner hkey]
    rfl
  have hgreater : (ask [⟨0, 0⟩, ⟨1, 0xFFFFFFFB⟩, ⟨1, 3⟩]).answerIn h = some (.ok ⟨1, 3⟩, h) := by
    have hfind : h.imports.find? "java.lang.Math" "I$max$I$I"
        = some ⟨.static, .builtin (.math .maxInt)⟩ := rfl
    rw [NativeRequest.answerIn, NativeRequest.call_of_spells howner hkey]
    show ((Host.call (.native _ _ [.null, .int (-5), .int 3])).apply h).map _ = _
    rw [Host.apply_call_native hfind]
    rfl
  have hserved : m.bootstrap.served h
      = some (2, [.error (.inModule (.unknownTag 7)), .ok ⟨1, 3⟩], h) := by
    simp only [m, EntryProgram.served, hunknown, hgreater]
    rfl
  refine ⟨.idle, (hlink h).trans rfl, fun c h' hc => ?_⟩
  rw [(hafter h _ c h' hc).2 h, EntryProgram.report, hserved]
  rfl

end GuestHost
