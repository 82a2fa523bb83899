import GuestHost.Proofs.Dispatch.Depth
import GuestHost.Proofs.Linkage.Metafactory

/-!
# Routes to a linked target

A method handle is reached in several ways: through the target of an instance, with more or fewer of the
arguments bound beforehand; through a call on the instance that its class does not answer; and through the
native that invokes a plain handle with an array of arguments. All that counts is the handle, and the
arguments from the first bound one to the last of the call.

* `enter_target` — which arguments were bound does not matter;
* `Host.Lacks`, `found?_eq_none_iff` — a call that finds nothing in the class of its receiver;
* `apply_invokeMethod` — what the native does with a plain handle;
* `routes_agree` — the ways lead to the same end.
-/

namespace GuestHost

open Dispatch

/-- No class along the ancestry of a class declares a method with a receiver for a key, and none owns a
native for it. -/
structure Host.Lacks (h : Host) (cls : ClassId) (key : String) : Prop where
  method : ∀ c ∈ h.registry.ancestry cls, ∀ record, h.registry.get? c = some record →
    record.method? key .onInstance = none
  native : ∀ c ∈ h.registry.ancestry cls, ∀ record, h.registry.get? c = some record →
    h.imports.find? record.name key = none

namespace Dispatch

variable {h : Host} {call : Caller} {handle : MethodHandle} {linking capture values : List Value}
  {cls : ClassId} {key : String} {v array : Value}

/-- A call with a receiver finds nothing exactly if the class lacks the key. -/
theorem found?_eq_none_iff : found? h cls key .onInstance = none ↔ h.Lacks cls key := by
  have hmethod : h.registry.findMethod? cls key .onInstance = none ↔
      ∀ c ∈ h.registry.ancestry cls, ∀ record, h.registry.get? c = some record →
        record.method? key .onInstance = none := by
    simp only [Registry.findMethod?, List.findSome?_eq_none_iff, Option.bind_eq_none_iff]
  have hnative : native? h cls key = none ↔
      ∀ c ∈ h.registry.ancestry cls, ∀ record, h.registry.get? c = some record →
        h.imports.find? record.name key = none := by
    simp only [native?, List.findSome?_eq_none_iff, Option.bind_eq_none_iff]
  unfold found?
  cases hm : h.registry.findMethod? cls key .onInstance with
  | some m =>
    simp only [reduceCtorEq, false_iff]
    intro hlacks
    rw [hmethod.2 hlacks.method] at hm
    cases hm
  | none =>
    simp only
    rw [hnative]
    exact ⟨fun hn => ⟨hmethod.1 hm, hn⟩, Host.Lacks.native⟩

/-- Arguments that are bound are as good as arguments of the call. -/
theorem enter_target (depth : Nat) (handle : MethodHandle) (linking capture : List Value) :
    enter (depth + 1) (.target ⟨handle, linking⟩ capture)
      = enter (depth + 1) (.target ⟨handle, []⟩ (linking ++ capture)) := by
  show callTarget (enter depth) ⟨handle, linking⟩ capture
    = callTarget (enter depth) ⟨handle, []⟩ (linking ++ capture)
  unfold callTarget
  simp only [List.nil_append]

/-- Invoking a plain handle calls it with the elements of the array. -/
theorem apply_invokeMethod (hv : h.HasObject v cls (.methodHandle handle))
    (hvalues : h.arrayValues array = .ok values) :
    (runBuiltin call .invokeHandle [v, array]).apply h
      = (call (.target ⟨handle, []⟩ values)).apply h := by
  obtain ⟨r, o, rfl, ho, -, hpayload⟩ := hv
  have hread : (handleArguments [.ref r, array]).apply h = (.ok values, h) := by
    cases array with
    | null => cases hvalues
    | ref | handle => exact Action.apply_view_of_ok hvalues
    | int | long | float | double => cases hvalues
  have hcalls : calls h .invokeHandle [.ref r, array] = some (.target ⟨handle, []⟩ values) := by
    have hobject := Heap.object_eq_ok.2 ho
    show (((handleArguments [.ref r, array]).apply h).1.toOption.bind fun values =>
      (h.heap.object r).toOption.bind fun o => _) = _
    rw [hread, hobject]
    simp only [Except.toOption, Option.bind_some, hpayload]
    rfl
  have hfollows := follows_runBuiltin (h := h) .invokeHandle [.ref r, array]
  rw [hfollows call call, hcalls]

/-! ## The routes -/

/-- The owner of the native that invokes a handle with an array of arguments. -/
def invokeExactOwner : String := "java.lang.invoke.MethodHandle"

/-- The key of that native. -/
def invokeExactKey : String := "Ljava$lang$Object$$invokeExact$$Ljava$lang$Object$"

theorem apply_invokeExact (hv : h.HasObject v cls (.methodHandle handle))
    (hvalues : h.arrayValues array = .ok values)
    (hnative : h.imports.find? invokeExactOwner invokeExactKey
      = some ⟨.onInstance, .builtin .invokeHandle⟩) (depth : Nat) :
    (enter (depth + 2) (.native invokeExactOwner invokeExactKey [v, array])).apply h
      = (enter (depth + 1) (.target ⟨handle, []⟩ values)).apply h := by
  have hargs : nativeArguments h.mode .onInstance [v, array] = [v, array] := by
    unfold nativeArguments
    cases h.mode <;> rfl
  show (step (enter (depth + 1)) (.native invokeExactOwner invokeExactKey [v, array])).apply h = _
  rw [apply_native hnative, hargs]
  exact apply_invokeMethod hv hvalues

theorem apply_plainInvokeExact (hv : h.HasObject v cls (.methodHandle handle))
    (hvalues : h.arrayValues array = .ok values)
    (hnative : h.imports.find? invokeExactOwner invokeExactKey
      = some ⟨.onInstance, .builtin .invokeHandle⟩) (depth : Nat) :
    (enter (depth + 2) (.plainNative invokeExactOwner invokeExactKey [v, array])).apply h
      = (enter (depth + 1) (.target ⟨handle, []⟩ values)).apply h :=
  (apply_callPlainNative hnative).trans (apply_invokeMethod hv hvalues)

/-- A call on an instance that its class does not answer is a call of its target. -/
theorem apply_forwarded (hv : h.HasObject v cls (.lambda ⟨handle, linking⟩)) (hlacks : h.Lacks cls key)
    (args : List Value) (depth : Nat) :
    (enter (depth + 2) (.virtual v key args)).apply h
      = (enter (depth + 1) (.target ⟨handle, []⟩ (linking ++ args))).apply h := by
  have hcls : h.classOf v = .ok cls := by
    obtain ⟨r, o, rfl, ho, rfl, -⟩ := hv
    simp only [Host.classOf, ho]
  rw [← enter_target]
  exact hv.forwardsTo.2 cls key hcls (found?_eq_none_iff.2 hlacks) (enter (depth + 1)) args

end Dispatch

open Dispatch

/-- **All routes to a linked target agree**, and it does not matter which of the arguments were bound. Take
instances `A` and `B` that forward to a method handle of any kind, a plain handle `H` for it and an array of
all its arguments. The target of `A` may be called with the last arguments, the target of `B` with some more
of them, the native that invokes a handle, in either way, with `H` and the array, or a method on `A` with the
last arguments that the class of `A` lacks. At each depth the first two have the same outcome, and the others
have it one level deeper. So if calls may nest deep enough, all of them end alike, with the same result or
fault and the same host; and with the bound that there is, those that end do so. -/
theorem routes_agree {h : Host} {handle : MethodHandle} {first second args : List Value}
    {A B H array : Value} {clsA clsB clsH : ClassId} {key : String}
    (hA : h.HasObject A clsA (.lambda ⟨handle, first ++ second⟩))
    (hB : h.HasObject B clsB (.lambda ⟨handle, first⟩))
    (hH : h.HasObject H clsH (.methodHandle handle))
    (harray : h.arrayValues array = .ok (first ++ second ++ args))
    (hnative : h.imports.find? invokeExactOwner invokeExactKey
      = some ⟨.onInstance, .builtin .invokeHandle⟩)
    (hlacks : h.Lacks clsA key) :
    let callA : Call := .target ⟨handle, first ++ second⟩ args
    let callB : Call := .target ⟨handle, first⟩ (second ++ args)
    let invokeExact : Call := .native invokeExactOwner invokeExactKey [H, array]
    let plainInvokeExact : Call := .plainNative invokeExactOwner invokeExactKey [H, array]
    let method : Call := .virtual A key args
    let routes := [callA, callB, invokeExact, plainInvokeExact, method]
    target? h A = .ok (some ⟨handle, first ++ second⟩) ∧ target? h B = .ok (some ⟨handle, first⟩) ∧
    (∀ depth, (enter (depth + 1) callB).apply h = (enter (depth + 1) callA).apply h ∧
      (enter (depth + 2) invokeExact).apply h = (enter (depth + 1) callA).apply h ∧
      (enter (depth + 2) plainInvokeExact).apply h = (enter (depth + 1) callA).apply h ∧
      (enter (depth + 2) method).apply h = (enter (depth + 1) callA).apply h) ∧
    (∀ r ∈ routes, ∀ r' ∈ routes, ∀ result h', h.CallEnds r result h' ↔ h.CallEnds r' result h') ∧
    ∀ r ∈ routes, ∀ r' ∈ routes, ∀ result h' result' h'', (Host.call r).apply h = some (result, h') →
      (Host.call r').apply h = some (result', h'') → result = result' ∧ h' = h'' := by
  intro callA callB invokeExact plainInvokeExact method routes
  have hcallB : ∀ depth, enter (depth + 1) callB = enter (depth + 1) callA := by
    intro depth
    rw [enter_target depth handle first, enter_target depth handle (first ++ second),
      List.append_assoc]
  have hexact : ∀ depth, (enter (depth + 2) invokeExact).apply h
      = (enter (depth + 1) callA).apply h := by
    intro depth
    rw [apply_invokeExact hH harray hnative, enter_target depth handle (first ++ second)]
  have hplain : ∀ depth, (enter (depth + 2) plainInvokeExact).apply h
      = (enter (depth + 1) callA).apply h := by
    intro depth
    rw [apply_plainInvokeExact hH harray hnative, enter_target depth handle (first ++ second)]
  have hmethod : ∀ depth, (enter (depth + 2) method).apply h
      = (enter (depth + 1) callA).apply h := by
    intro depth
    rw [apply_forwarded hA hlacks, enter_target depth handle (first ++ second)]
  have hends : ∀ r ∈ routes, ∀ result h', h.CallEnds r result h' ↔ h.CallEnds callA result h' := by
    intro r hr result h'
    simp only [routes, List.mem_cons, List.not_mem_nil, or_false] at hr
    rcases hr with rfl | rfl | rfl | rfl | rfl
    · exact Iff.rfl
    · exact Host.callEnds_congr 1 1 fun depth => by rw [hcallB]
    · exact Host.callEnds_congr 2 1 hexact
    · exact Host.callEnds_congr 2 1 hplain
    · exact Host.callEnds_congr 2 1 hmethod
  refine ⟨hA.forwardsTo.1, hB.forwardsTo.1,
    fun depth => ⟨by rw [hcallB], hexact depth, hplain depth, hmethod depth⟩,
    fun r hr r' hr' result h' => (hends r hr result h').trans (hends r' hr' result h').symm, ?_⟩
  intro r hr r' hr' result h' result' h'' hrun hrun'
  have hfirst := (hends r hr result h').1 (Host.callEnds_of_call hrun)
  exact hfirst.unique ((hends r' hr' result' h'').1 (Host.callEnds_of_call hrun'))

/-- A character is looked for in a text by way of the plain handle, and by way of an instance that has the
text and the character bound. -/
theorem routes_agree_for_finder :
    let finder : MethodHandle := ⟨CoreClass.string, "I$indexOf$I", .virtual⟩
    let text : Value := .ref ⟨0⟩
    let natives : Imports NativeCode :=
      (Imports.empty.add "java.lang.String" "I$indexOf$I" .onInstance (.builtin (.text .indexOf))).add
        invokeExactOwner invokeExactKey .onInstance (.builtin .invokeHandle)
    let h : Host :=
      { config := {},
        heap := ⟨#[.object ⟨CoreClass.string, .empty, .text "abcb"⟩,
          .object ⟨rootClass, .empty, .lambda ⟨finder, [text, .int 99]⟩⟩,
          .object ⟨rootClass, .empty, .lambda ⟨finder, [text]⟩⟩,
          .object ⟨CoreClass.methodHandle, .empty, .methodHandle finder⟩, .array [text, .int 99]]⟩,
        registry := CoreClass.registry, linkage := .empty, files := .empty,
        source := .staged .empty, imports := natives, attached := none,
        surroundings := { millis := 0, seed := 0 } }
    ∃ h', h.CallEnds (.native invokeExactOwner invokeExactKey [.ref ⟨3⟩, .ref ⟨4⟩]) (.ok (.int 2)) h' ∧
      h.CallEnds (.virtual (.ref ⟨1⟩) "I$find$$" []) (.ok (.int 2)) h' := by
  intro finder text natives h
  have hA : h.HasObject (.ref ⟨1⟩) rootClass (.lambda ⟨finder, [text] ++ [.int 99]⟩) :=
    ⟨_, _, rfl, rfl, rfl, rfl⟩
  have hB : h.HasObject (.ref ⟨2⟩) rootClass (.lambda ⟨finder, [text]⟩) :=
    ⟨_, _, rfl, rfl, rfl, rfl⟩
  have hH : h.HasObject (.ref ⟨3⟩) CoreClass.methodHandle (.methodHandle finder) :=
    ⟨_, _, rfl, rfl, rfl, rfl⟩
  have harray : h.arrayValues (.ref ⟨4⟩) = .ok ([text] ++ [.int 99] ++ []) := rfl
  have hnative : h.imports.find? invokeExactOwner invokeExactKey
      = some ⟨.onInstance, .builtin .invokeHandle⟩ := by rfl
  have hlacks : h.Lacks rootClass "I$find$$" := by
    have hnone : (found? h rootClass "I$find$$" .onInstance).isNone = true := by decide +kernel
    exact found?_eq_none_iff.1 (Option.isNone_iff_eq_none.1 hnone)
  have hrun : ((enter 2 (.target ⟨finder, [text]⟩ [.int 99])).apply h).map (·.1)
      = some (.ok (.int 2)) := by
    decide +kernel
  obtain ⟨⟨result, h'⟩, hrun, rfl⟩ := Option.map_eq_some_iff.1 hrun
  have hends : h.CallEnds (.target ⟨finder, [text]⟩ [.int 99]) (.ok (.int 2)) h' := ⟨2, hrun⟩
  obtain ⟨-, -, -, hagree, -⟩ := routes_agree hA hB hH harray hnative hlacks
  refine ⟨h', (hagree _ ?_ _ ?_ _ _).1 hends, (hagree _ ?_ _ ?_ _ _).1 hends⟩
  all_goals simp

end GuestHost
