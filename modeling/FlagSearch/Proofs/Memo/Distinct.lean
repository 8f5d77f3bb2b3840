import FlagSearch.Proofs.Memo.Answers
import Mathlib.Data.Finset.Card

/-!
# Callers with keys of their own

Whether a caller hits or misses depends on the order of the callers in two ways only: another caller
may want the same key, and another caller's key may drive this one out of the memo.  If all callers
want different keys and the memo has room for all of them, who hits and who misses is settled before
the first of them enters.

* `Memo.Within.mem_keys_publish_iff` — with room for all keys, publishing drops none.
* `Traffic.Spread` — the invariant of such callers.
* `Traffic.Spread.hits_eq`, `Traffic.Spread.misses_eq` — the counts when everyone has come out.
-/

namespace FlagSearch

variable {κ : Type} {capacity : Nat}

theorem Memo.Within.mem_keys_publish_iff [DecidableEq κ] {memo : Memo κ} (within : memo.Within capacity)
    {room : Finset κ} (fits : room.card ≤ capacity) (inside : ∀ key ∈ memo.keys, key ∈ room)
    {key : κ} (member : key ∈ room) (outcome : Outcome) {other : κ} :
    other ∈ (memo.publish key outcome).keys ↔ other = key ∨ other ∈ memo.keys := by
  have nodup : (key :: memo.keys.filter (· ≠ key)).Nodup :=
    List.nodup_cons.2 ⟨by simp, within.nodup.filter _⟩
  have all : (key :: memo.keys.filter (· ≠ key)).toFinset ⊆ room := by
    intro other held
    rcases List.mem_cons.1 (List.mem_toFinset.1 held) with rfl | kept
    · exact member
    · exact inside other (List.mem_filter.1 kept).1
  have short : (key :: memo.keys.filter (· ≠ key)).length ≤ memo.capacity := by
    rw [within.capacity_eq, ← List.toFinset_card_of_nodup nodup]
    exact (Finset.card_le_card all).trans fits
  rw [Memo.keys_publish, List.take_of_length_le short, List.mem_cons, List.mem_filter,
    decide_eq_true_eq]
  by_cases same : other = key
  · simp [same]
  · simp [same]

namespace Traffic

/-- Callers who want different keys of a memo that began with the keys `before`, with room for all
keys anyone wants. -/
structure Spread (before : List κ) (room : Finset κ) (traffic : Traffic κ) : Prop where
  nodup : (traffic.callers.map (·.key)).Nodup
  inside : ∀ caller ∈ traffic.callers, caller.key ∈ room
  keys : ∀ key, key ∈ traffic.shared.memo.keys ↔
    key ∈ before ∨ ∃ caller ∈ traffic.callers, caller.key = key ∧ caller.ending.isSome
  leads : ∀ caller ∈ traffic.callers, caller.role.leads?.isNone ↔ caller.key ∈ before
  flying : ∀ key ∈ traffic.shared.flying, key ∈ traffic.callers.map (·.key)

theorem spread_quiet (memo : Memo κ) (room : Finset κ) : Spread memo.keys room (quiet memo) where
  nodup := List.nodup_nil
  inside := by simp [quiet]
  keys := by simp [quiet, Shared.idle]
  leads := by simp [quiet]
  flying := by simp [quiet, Shared.idle, Shared.flying]

/-! ## Coming out -/

section Out

variable {callers : List (Caller κ)} {i : Nat} {key : κ} {role : Role}

theorem exists_out_set (told : Ending) (was : callers[i]? = some ⟨key, role, none⟩) {other : κ} :
    (∃ caller ∈ callers.set i ⟨key, role, some told⟩, caller.key = other ∧ caller.ending.isSome) ↔
      other = key ∨ ∃ caller ∈ callers, caller.key = other ∧ caller.ending.isSome := by
  constructor
  · rintro ⟨caller, member, rfl, out⟩
    obtain ⟨j, at_⟩ := List.mem_iff_getElem?.1 member
    rcases getElem?_set_caller_cases was at_ with ⟨_, rfl⟩ | ⟨_, earlier⟩
    · exact .inl rfl
    · exact .inr ⟨caller, List.mem_of_getElem? earlier, rfl, out⟩
  · rintro (rfl | ⟨caller, member, rfl, out⟩)
    · exact ⟨_, List.mem_set (List.getElem?_eq_some_iff.1 was).1 _, rfl, rfl⟩
    · obtain ⟨j, at_⟩ := List.mem_iff_getElem?.1 member
      have apart : i ≠ j := by
        rintro rfl
        cases was.symm.trans at_
        cases out
      exact ⟨caller, List.mem_of_getElem? ((List.getElem?_set_ne apart).trans at_), rfl, out⟩

theorem mem_set_caller {ending : Option Ending} (was : callers[i]? = some ⟨key, role, none⟩)
    {caller : Caller κ} (member : caller ∈ callers.set i ⟨key, role, ending⟩) :
    ∃ same ∈ callers, same.key = caller.key ∧ same.role = caller.role := by
  rcases List.mem_or_eq_of_mem_set member with earlier | rfl
  · exact ⟨caller, earlier, rfl, rfl⟩
  · exact ⟨_, List.mem_of_getElem? was, rfl, rfl⟩

end Out

namespace Spread

variable {before : List κ} {room : Finset κ} {traffic next : Traffic κ}

theorem out (spread : traffic.Spread before room) {i : Nat} {key : κ} {role : Role}
    (told : Ending) (was : traffic.callers[i]? = some ⟨key, role, none⟩) {shared : Shared κ}
    (held : ∀ other, other ∈ shared.memo.keys ↔ other = key ∨ other ∈ traffic.shared.memo.keys)
    (flying : ∀ other ∈ shared.flying, other ∈ traffic.shared.flying) :
    Spread before room ⟨shared, traffic.callers.set i ⟨key, role, some told⟩⟩ where
  nodup := (map_key_set was).symm ▸ spread.nodup
  inside caller member := by
    obtain ⟨same, earlier, key_eq, _⟩ := mem_set_caller was member
    exact key_eq ▸ spread.inside same earlier
  keys other := by
    rw [held, spread.keys, exists_out_set told was]
    exact or_left_comm
  leads caller member := by
    obtain ⟨same, earlier, key_eq, role_eq⟩ := mem_set_caller was member
    rw [← key_eq, ← role_eq]
    exact spread.leads same earlier
  flying other member := (map_key_set was).symm ▸ spread.flying other (flying other member)

theorem append (spread : traffic.Spread before room) {key : κ} {role : Role}
    {ending : Option Ending} {shared : Shared κ} (member : key ∈ room)
    (own : key ∉ traffic.callers.map (·.key)) (leads : role.leads?.isNone ↔ key ∈ before)
    (held : ∀ other, other ∈ shared.memo.keys ↔
      (other = key ∧ ending.isSome) ∨ other ∈ traffic.shared.memo.keys)
    (flying : ∀ other ∈ shared.flying, other = key ∨ other ∈ traffic.shared.flying) :
    Spread before room ⟨shared, traffic.callers ++ [⟨key, role, ending⟩]⟩ where
  nodup := by
    rw [List.map_append]
    refine List.nodup_append.2 ⟨spread.nodup, List.nodup_singleton _, ?_⟩
    rintro other earlier _ new rfl
    rw [List.mem_singleton.1 new] at earlier
    exact own earlier
  inside := List.forall_mem_append.2 ⟨spread.inside, List.forall_mem_singleton.2 member⟩
  keys other := by
    rw [held, spread.keys]
    simp only [List.mem_append, List.mem_singleton, or_and_right, exists_or, exists_eq_left]
    rw [or_left_comm, or_comm (a := other = key ∧ _), eq_comm (a := other)]
  leads := List.forall_mem_append.2 ⟨spread.leads, List.forall_mem_singleton.2 leads⟩
  flying other member := by
    rw [List.map_append]
    rcases flying other member with rfl | earlier
    · exact List.mem_append_right _ (List.mem_singleton_self _)
    · exact List.mem_append_left _ (spread.flying other earlier)

theorem mem_room (spread : traffic.Spread before room) (known : ∀ key ∈ before, key ∈ room) :
    ∀ key ∈ traffic.shared.memo.keys, key ∈ room := by
  intro key held
  rcases (spread.keys key).1 held with early | ⟨caller, inside, rfl, _⟩
  · exact known key early
  · exact spread.inside caller inside

variable [DecidableEq κ]

theorem enter (spread : traffic.Spread before room) (sound : traffic.Sound capacity)
    (fits : room.card ≤ capacity) (known : ∀ key ∈ before, key ∈ room) {key : κ}
    (member : key ∈ room) (own : key ∉ traffic.callers.map (·.key)) :
    Spread before room ⟨(traffic.shared.enter key).2, traffic.callers ++
      [⟨key, (traffic.shared.enter key).1, (traffic.shared.enter key).1.ending?⟩]⟩ := by
  have held_iff : key ∈ traffic.shared.memo.keys ↔ key ∈ before := by
    rw [spread.keys]
    refine or_iff_left ?_
    rintro ⟨caller, inside, rfl, _⟩
    exact own (List.mem_map_of_mem inside)
  rcases traffic.shared.enter_cases key with ⟨outcome, held, entered⟩ | ⟨flight, flying, _⟩ |
    ⟨absent, _, entered⟩
  · rw [entered]
    refine spread.append member own (iff_of_true rfl (held_iff.1 held)) (fun other => ?_)
      fun other => .inr
    refine (sound.within.mem_keys_publish_iff fits (spread.mem_room known) member outcome).trans ?_
    simp [Role.ending?]
  · exact absurd (spread.flying key (List.mem_map_of_mem (f := Prod.fst) flying)) own
  · rw [entered]
    refine spread.append member own (iff_of_false (by simp [Role.leads?]) (mt held_iff.2 absent))
      (fun other => ?_) fun other flying => List.mem_cons.1 flying
    simp [Role.ending?, Memo.started, Memo.keys]

theorem step (spread : traffic.Spread before room) (sound : traffic.Sound capacity)
    (fits : room.card ≤ capacity) (known : ∀ key ∈ before, key ∈ room) {action : Action κ}
    (step : traffic.Step action next)
    (enters : ∀ key role, action = .entered key role →
      key ∈ room ∧ key ∉ traffic.callers.map (·.key))
    (lands : ∀ key flight reply, action = .landed key flight reply →
      ∃ outcome, reply.published = .ok outcome) : next.Spread before room := by
  cases step with
  | enter key =>
    obtain ⟨member, own⟩ := enters key _ rfl
    exact spread.enter sound fits known member own
  | @land i key flight reply leading =>
    obtain ⟨outcome, published⟩ := lands key flight reply rfl
    refine spread.out _ leading (fun other => ?_) fun other flying =>
      (Shared.mem_flying_land flying).1
    rw [Shared.land, published]
    have member := spread.inside _ (List.mem_of_getElem? leading)
    exact sound.within.mem_keys_publish_iff fits (spread.mem_room known) member outcome
  | @wake i key flight result shared following woken =>
    obtain ⟨_, rfl⟩ := Shared.wake_eq_some woken
    -- A follower would have to wait for another caller with its key, unless the key was known from
    -- the beginning.
    refine spread.out _ following (fun other => ?_) fun other => id
    have early := (spread.leads _ (List.mem_of_getElem? following)).1 rfl
    refine (or_iff_right_of_imp ?_).symm
    rintro rfl
    exact (spread.keys other).2 (.inl early)

/-! ## When everyone has come out -/

theorem hits_eq (spread : traffic.Spread before room) {memo : Memo κ} {past : List (Event κ)}
    (answered : Answered memo past traffic) (out : ∀ caller ∈ traffic.callers, caller.ending.isSome) :
    traffic.shared.memo.hits =
      memo.hits + (traffic.callers.map (·.key)).countP (· ∈ before) := by
  rw [answered.hits_eq, List.countP_map]
  refine congrArg _ (List.countP_congr fun caller member => ?_)
  simp [Caller.spared, out caller member, ← spread.leads caller member]

theorem misses_eq (spread : traffic.Spread before room) (sound : traffic.Sound capacity)
    {memo : Memo κ} {past : List (Event κ)} (answered : Answered memo past traffic) :
    traffic.shared.memo.misses =
      memo.misses + (traffic.callers.map (·.key)).countP (· ∉ before) := by
  rw [answered.misses_eq, answered.starts_eq, sound.length_published, List.countP_map]
  refine congrArg _ (List.countP_congr fun caller member => ?_)
  have leads := spread.leads caller member
  cases role : caller.role.leads? <;> simp [role, ← leads]

end Spread

end Traffic

end FlagSearch
