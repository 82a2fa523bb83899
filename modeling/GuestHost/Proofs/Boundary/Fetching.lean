import GuestHost.Module.Library
import GuestHost.Proofs.Text.Transcoding

/-!
# Fetching a text from a module that is not trusted

A fetch asks a module for a text until the size that the module reports fits the buffer it was offered.
Nothing ties the reports together: a text may grow or shrink between two calls, and a module may lie.

* `offered`, `size`, `left` — what each call of a fetch offers, is told and finds in the buffer afterwards;
* `run_of_more`, `fetch?_of_fits`, `fetch?_eq_none_iff` — which calls are made, and what the last one gives;
* `forall_asksForMore_iff` — a fetch without an end is told greater and greater sizes;
* `Reads` — what fetched bytes are read as;
* `fetch_exact` — all of this for a module that writes into the buffer alone;
* `Library.fetch?_responder` — a fetch from a shared library is never without an end.
-/

namespace GuestHost

namespace TextFetch

variable {respond : Responder} {k calls : Nat} {handle : UInt32} {contents : Bytes}

/-! ## The calls of a fetch -/

/-- The buffer that a call offers, if every call before it asked for more: it is empty at first, and then
what the call before left, with zeros up to the size that this one reported. -/
def offered (respond : Responder) : Nat → Bytes
  | 0 => []
  | k + 1 =>
    let (size, filled) := respond k (offered respond k)
    filled ++ List.replicate (size.toNat - (offered respond k).length) 0

/-- The size that a call reports. -/
def size (respond : Responder) (k : Nat) : Int := (respond k (offered respond k)).1

/-- What a call leaves in the buffer. -/
def left (respond : Responder) (k : Nat) : Bytes := (respond k (offered respond k)).2

/-- A call reports a greater size than it was offered. -/
def AsksForMore (respond : Responder) (k : Nat) : Prop :=
  ((offered respond k).length : Int) < size respond k

/-- The bytes that a call gives if it is the last, or nothing if there is no text. -/
def given (respond : Responder) (k : Nat) : Option Bytes :=
  if size respond k < 0 then none else some ((left respond k).take (size respond k).toNat)

theorem step_offered (respond : Responder) (k : Nat) :
    step respond k (offered respond k)
      = if size respond k < 0 then .dead
        else if (size respond k).toNat ≤ (offered respond k).length then
          .fits ((left respond k).take (size respond k).toNat)
        else .grow (offered respond (k + 1)) := rfl

theorem step_of_more (h : AsksForMore respond k) :
    step respond k (offered respond k) = .grow (offered respond (k + 1)) := by
  unfold AsksForMore at h
  rw [step_offered, if_neg (by omega), if_neg (by omega)]

theorem step_of_dead (h : size respond k < 0) : step respond k (offered respond k) = .dead := by
  rw [step_offered, if_pos h]

theorem step_of_fits (h : ¬ size respond k < 0) (hfits : ¬ AsksForMore respond k) :
    step respond k (offered respond k) = .fits ((left respond k).take (size respond k).toNat) := by
  unfold AsksForMore at hfits
  rw [step_offered, if_neg h, if_pos (by omega)]

/-- While the calls ask for more, a fetch comes to the next one with the buffer that is offered there. -/
theorem run_of_more (h : ∀ j < k, AsksForMore respond j) (n : Nat) :
    run respond (k + n) 0 [] = run respond n k (offered respond k) := by
  induction k generalizing n with
  | zero => rw [Nat.zero_add, offered]
  | succ k ih =>
    rw [Nat.add_assoc, ih (fun j hj => h j (Nat.lt_succ_of_lt hj)), Nat.add_comm 1 n, run,
      step_of_more (h k (Nat.lt_succ_self k))]

/-- The first call that does not ask for more is the last. -/
theorem run_of_fits (h : ¬ AsksForMore respond k) (n : Nat) :
    run respond (n + 1) k (offered respond k) = some (given respond k) := by
  unfold given
  rw [run]
  by_cases hneg : size respond k < 0
  · rw [step_of_dead hneg, if_pos hneg]
  · rw [step_of_fits hneg h, if_neg hneg]

theorem fetch?_of_more (h : ∀ j < calls, AsksForMore respond j) :
    fetch? respond calls handle = none := by
  unfold fetch?
  rw [← Nat.add_zero calls, run_of_more h, run]
  rfl

theorem fetch?_of_fits (hmore : ∀ j < k, AsksForMore respond j) (hfits : ¬ AsksForMore respond k)
    (hcalls : k < calls) :
    fetch? respond calls handle = some (textOf handle (given respond k)) := by
  obtain ⟨n, rfl⟩ : ∃ n, calls = k + (n + 1) := ⟨calls - k - 1, by omega⟩
  unfold fetch?
  rw [run_of_more hmore, run_of_fits hfits]
  rfl

/-- Of some calls that do not all ask for more, one is the first that does not. -/
theorem exists_first (h : ¬ ∀ j < calls, AsksForMore respond j) :
    ∃ k < calls, (∀ j < k, AsksForMore respond j) ∧ ¬ AsksForMore respond k := by
  induction calls with
  | zero => exact absurd (fun j hj => absurd hj (Nat.not_lt_zero j)) h
  | succ n ih =>
    by_cases hbefore : ∀ j < n, AsksForMore respond j
    · refine ⟨n, Nat.lt_succ_self n, hbefore, fun hn => h fun j hj => ?_⟩
      rcases Nat.lt_succ_iff_lt_or_eq.1 hj with hj | rfl
      · exact hbefore j hj
      · exact hn
    · obtain ⟨k, hk, hfirst⟩ := ih hbefore
      exact ⟨k, Nat.lt_succ_of_lt hk, hfirst⟩

/-- A fetch is not at its end after some calls exactly if each of them asks for more. -/
theorem fetch?_eq_none_iff :
    fetch? respond calls handle = none ↔ ∀ j < calls, AsksForMore respond j := by
  refine ⟨fun hnone => ?_, fetch?_of_more⟩
  by_contra h
  obtain ⟨k, hk, hmore, hfits⟩ := exists_first h
  rw [fetch?_of_fits hmore hfits hk] at hnone
  cases hnone

/-! ## Modules that write into the buffer alone -/

section

variable (hfills : ∀ k buffer, (respond k buffer).2.length = buffer.length)

include hfills

/-- A call offers as much as the call before asked for. -/
theorem length_offered_succ (h : AsksForMore respond k) :
    ((offered respond (k + 1)).length : Int) = size respond k := by
  have hleft := hfills k (offered respond k)
  unfold AsksForMore at h
  show (((left respond k)
    ++ List.replicate ((size respond k).toNat - (offered respond k).length) 0).length : Int) = _
  rw [List.length_append, List.length_replicate, left, hleft]
  omega

/-- The bytes that are taken from a buffer are as many as were reported. -/
theorem length_take_left (h : 0 ≤ size respond k) (hfits : ¬ AsksForMore respond k) :
    (((left respond k).take (size respond k).toNat).length : Int) = size respond k := by
  have hleft : (left respond k).length = (offered respond k).length := hfills k _
  unfold AsksForMore at hfits
  rw [List.length_take, hleft]
  omega

/-- The calls ask for more without end exactly if they report greater and greater sizes. -/
theorem forall_asksForMore_iff :
    (∀ k, AsksForMore respond k) ↔
      0 < size respond 0 ∧ ∀ k, size respond k < size respond (k + 1) := by
  have hnext : ∀ k, AsksForMore respond k →
      (AsksForMore respond (k + 1) ↔ size respond k < size respond (k + 1)) := by
    intro k hk
    rw [AsksForMore, length_offered_succ hfills hk]
  constructor
  · exact fun h => ⟨h 0, fun k => (hnext k (h k)).1 (h (k + 1))⟩
  · rintro ⟨hfirst, hgreater⟩ k
    induction k with
    | zero => exact hfirst
    | succ k ih => exact (hnext k ih).2 (hgreater k)

/-- A module that always reports the same size is asked twice at most. -/
theorem exists_first_of_constant {m : Int} (hsize : ∀ k buffer, (respond k buffer).1 = m) :
    ∃ k < 2, (∀ j < k, AsksForMore respond j) ∧ ¬ AsksForMore respond k := by
  refine exists_first fun hmore => ?_
  have hsecond : AsksForMore respond 1 := hmore 1 (by decide)
  rw [AsksForMore, length_offered_succ hfills (hmore 0 (by decide)), size, size, hsize, hsize] at hsecond
  exact Int.lt_irrefl m hsecond

/-- A call offers at least as many bytes as calls before it asked for more. -/
theorem le_length_offered (h : ∀ j < k, AsksForMore respond j) : k ≤ (offered respond k).length := by
  induction k with
  | zero => exact Nat.zero_le _
  | succ k ih =>
    have hmore : AsksForMore respond k := h k (Nat.lt_succ_self k)
    have hbefore := ih fun j hj => h j (Nat.lt_succ_of_lt hj)
    have hnext := length_offered_succ hfills hmore
    unfold AsksForMore at hmore
    omega

/-- A module that reports sizes below a bound is asked so many times at most. -/
theorem exists_first_of_lt (hpos : 0 < calls) (hsize : ∀ k buffer, (respond k buffer).1 < calls) :
    ∃ k < calls, (∀ j < k, AsksForMore respond j) ∧ ¬ AsksForMore respond k := by
  refine exists_first fun hmore => ?_
  have hlast : AsksForMore respond (calls - 1) := hmore _ (by omega)
  have hoffered := le_length_offered hfills (k := calls - 1) fun j hj => hmore j (by omega)
  have hbound : size respond (calls - 1) < calls := hsize _ _
  unfold AsksForMore at hlast
  omega

end

/-- A call that has room for the whole text gives it. -/
theorem given_of_whole (hfits : ¬ AsksForMore respond k) (hsize : size respond k = contents.length)
    (hwhole : contents.length ≤ (offered respond k).length → contents <+: left respond k) :
    given respond k = some contents := by
  have hroom : contents.length ≤ (offered respond k).length := by
    unfold AsksForMore at hfits
    omega
  unfold given
  rw [hsize, if_neg (by omega), Int.toNat_natCast, ← List.prefix_iff_eq_take.1 (hwhole hroom)]

/-- A module that holds a text writes into the buffer alone. -/
theorem length_holding (contents : Option Bytes) (k : Nat) (buffer : Bytes) :
    (holding contents k buffer).2.length = buffer.length := by
  cases contents with
  | none => rfl
  | some bytes =>
    simp only [holding, List.length_append, List.length_take, List.length_drop]
    omega

/-! ## What is fetched -/

/-- What bytes are read as: the text that has these bytes, or a fault of the module if no text has them. -/
inductive Reads (bytes : Bytes) : Except Fault String → Prop
  | text {s : String} (h : Utf8.ofString s = bytes) : Reads bytes (.ok s)
  | flawed (h : ∀ s, Utf8.ofString s ≠ bytes) (flaw : Utf8.Flaw) :
    Reads bytes (.error (.inModule (.text flaw)))

theorem reads_textOf (handle : UInt32) (bytes : Bytes) : Reads bytes (textOf handle (some bytes)) := by
  simp only [textOf]
  cases hdecode : Utf8.decode bytes with
  | ok cs =>
    have htext : Utf8.text? bytes = some cs := by
      rw [Utf8.text?, hdecode]
      rfl
    refine .text ?_
    rw [Utf8.ofString, String.toList_ofList]
    exact (Utf8.text?_eq_some_iff.1 htext).symm
  | error flaw =>
    refine .flawed (fun s hs => ?_) flaw
    rw [← hs, Utf8.ofString, Utf8.decode_encode] at hdecode
    cases hdecode

theorem Reads.eq_ok {result : Except Fault String} {s : String} (h : Reads (Utf8.ofString s) result) :
    result = .ok s := by
  cases h with
  | text hs =>
    have htext : Utf8.text? (Utf8.ofString s) = some s.toList := Utf8.text?_encode s.toList
    rw [← hs, Utf8.ofString, Utf8.text?_encode, Option.some.injEq, String.toList_inj] at htext
    rw [htext]
  | flawed hnone => exact absurd rfl (hnone s)

/-- **A fetch is right for every module that writes into the buffer alone.** The first call offers nothing, and
each later one as much as the call before asked for. The first call that reports a negative size, or one that
fits, is the last: there is no text, or the text is read from as many bytes of the buffer as were reported. A
module that always reports the size of its text and writes the text where it fits is asked twice at most, and
all of its text is read. A fetch has no end exactly if the sizes that it is told grow for ever. -/
theorem fetch_exact (hfills : ∀ k buffer, (respond k buffer).2.length = buffer.length)
    (handle : UInt32) :
    (offered respond 0 = [] ∧
      ∀ k, AsksForMore respond k → ((offered respond (k + 1)).length : Int) = size respond k) ∧
    (∀ k, (∀ j < k, AsksForMore respond j) →
      ∀ n, run respond (k + n) 0 [] = run respond n k (offered respond k)) ∧
    (∀ calls, fetch? respond calls handle = none ↔ ∀ j < calls, AsksForMore respond j) ∧
    (∀ k calls, (∀ j < k, AsksForMore respond j) → ¬ AsksForMore respond k → k < calls →
      (size respond k < 0 →
        fetch? respond calls handle = some (.error (.reference (.handle handle "text")))) ∧
      (0 ≤ size respond k → ∃ bytes result, bytes <+: left respond k ∧
        (bytes.length : Int) = size respond k ∧ Reads bytes result ∧
          fetch? respond calls handle = some result)) ∧
    (∀ contents : Bytes, (∀ k buffer, (respond k buffer).1 = contents.length) →
      (∀ k buffer, contents.length ≤ buffer.length → contents <+: (respond k buffer).2) →
        ∃ result, Reads contents result ∧ fetch? respond 2 handle = some result) ∧
    ((∀ calls, fetch? respond calls handle = none) ↔
      0 < size respond 0 ∧ ∀ k, size respond k < size respond (k + 1)) := by
  refine ⟨⟨rfl, fun k => length_offered_succ hfills⟩, fun k => run_of_more,
    fun calls => fetch?_eq_none_iff, fun k calls hmore hfits hcalls => ⟨fun hneg => ?_, fun hsize => ?_⟩,
    fun contents hsize hwhole => ?_, ?_⟩
  · rw [fetch?_of_fits hmore hfits hcalls, given, if_pos hneg]
    rfl
  · refine ⟨_, _, List.take_prefix _ _, length_take_left hfills hsize hfits, reads_textOf handle _, ?_⟩
    rw [fetch?_of_fits hmore hfits hcalls, given, if_neg (Int.not_lt.2 hsize)]
  · obtain ⟨k, hk, hmore, hfits⟩ := exists_first_of_constant hfills hsize
    have hgiven : given respond k = some contents := given_of_whole hfits (hsize k _) (hwhole k _)
    exact ⟨_, reads_textOf handle contents, by rw [fetch?_of_fits hmore hfits hk, hgiven]⟩
  · rw [← forall_asksForMore_iff hfills]
    simp only [fetch?_eq_none_iff]
    exact ⟨fun h k => h (k + 1) k (Nat.lt_succ_self k), fun h calls j _ => h j⟩

/-- A module whose text is another at each of the first three calls. -/
def changing : Responder
  | 0 => holding (some [104, 105]) 0
  | 1 => holding (some [104, 101, 108, 108, 111]) 1
  | k + 2 => holding (some [98, 121, 101]) (k + 2)

theorem fetch_exact_changing : (∀ k buffer, (changing k buffer).2.length = buffer.length) ∧
    (AsksForMore changing 0 ∧ AsksForMore changing 1 ∧ ¬ AsksForMore changing 2) ∧
    fetch? changing 2 7 = none ∧ fetch? changing 3 7 = some (.ok "bye") := by
  have hfills : ∀ k buffer, (changing k buffer).2.length = buffer.length := by
    intro k buffer
    rcases k with _ | _ | k <;> exact length_holding _ _ _
  have hfirst : AsksForMore changing 0 := by
    unfold AsksForMore
    decide
  have hsecond : AsksForMore changing 1 := by
    unfold AsksForMore
    decide
  have hthird : ¬ AsksForMore changing 2 := by
    unfold AsksForMore
    decide
  have hmore : ∀ j < 2, AsksForMore changing j := by
    intro j hj
    rcases j with _ | _ | j
    · exact hfirst
    · exact hsecond
    · omega
  obtain ⟨-, -, hnone, hlast, -, -⟩ := fetch_exact hfills 7
  obtain ⟨bytes, result, hbytes, hlength, hreads, hfetch⟩ :=
    (hlast 2 3 hmore hthird (by decide)).2 (by decide)
  have heq : bytes = Utf8.ofString "bye" := by
    rw [List.prefix_iff_eq_take.1 hbytes, show bytes.length = 3 from Int.ofNat.inj hlength]
    decide +kernel
  rw [heq] at hreads
  exact ⟨hfills, ⟨hfirst, hsecond, hthird⟩, (hnone 2).2 hmore, hreads.eq_ok ▸ hfetch⟩

end TextFetch

/-- **A fetch from a shared library comes to its end**, whatever the library answers: it writes into the
buffer alone, and its sizes are 64-bit. -/
theorem Library.fetch?_responder (l : Library) (h : UInt32) :
    TextFetch.fetch? (l.responder h) sizes h = some (l.text h) := by
  have hfills : ∀ k buffer, (l.responder h k buffer).2.length = buffer.length := by
    intro k buffer
    simp only [responder, List.length_append, List.length_take, List.length_drop]
    omega
  have hsize : ∀ k buffer, (l.responder h k buffer).1 < (sizes : Int) :=
    fun k buffer => Int64.toInt_lt _
  obtain ⟨k, hk, hmore, hfits⟩ := TextFetch.exists_first_of_lt hfills (by decide) hsize
  unfold text
  rw [TextFetch.fetch?_of_fits hmore hfits hk, Option.getD_some]

end GuestHost
