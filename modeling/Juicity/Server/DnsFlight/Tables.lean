import Juicity.Server.DnsFlight.Model

/-!
Contract: the calls do to the tables of a connection what the streams of the
relay do when they resolve a name. The relay takes a lookup and the drop of its
guard as one action and knows no `Notify`; seen through `tables`, an entered
call is one pass of `resolve`, a stored address is `remember`, and the removal
by the guard is `release`.
-/

namespace Juicity.Server.DnsFlight

open Juicity.Common
open Juicity.Machine
open Juicity.Server.UdpRelay (Name Setting)

/-- The tables as the relay has them. -/
def State.tables (state : State) : UdpRelay.State where
  dnsCache := state.dnsCache
  dnsResolving := fun key => decide (key ∈ state.dnsResolving)
  now := state.now
  streams := fun _ => ⟨[], ∅, .idle⟩
  sends := []

variable {state : State} {call notify : Nat} {target : SocketAddr} {outcome : Outcome}

theorem tables_store :
    (state.store call notify target).tables =
      state.tables.remember (state.calls call).key target := rfl

theorem tables_release :
    (state.release call notify outcome).tables = state.tables.release (state.calls call).key := by
  have resolving : (fun key => decide (key ∈ state.dnsResolving.erase (state.calls call).key)) =
      Function.update (fun key => decide (key ∈ state.dnsResolving)) (state.calls call).key
        false := by
    funext key
    by_cases same : key = (state.calls call).key
    · subst same
      rw [Function.update_self]
      simp [AList.mem_erase]
    · rw [Function.update_of_ne same]
      simp [AList.mem_erase, same]
  unfold State.tables UdpRelay.State.release State.release
  dsimp only
  rw [resolving]
  rfl

theorem tables_wakeAll : (state.wakeAll call notify outcome).tables = state.tables := rfl

theorem mem_register {key : Name} :
    key ∈ (state.register call).dnsResolving ↔
      key = (state.calls call).key ∨ key ∈ state.dnsResolving := by
  cases found : state.dnsResolving.lookup (state.calls call).key with
  | some notify =>
      have same : (state.register call).dnsResolving = state.dnsResolving := by
        simp only [State.register, found]
        rfl
      rw [same]
      constructor
      · exact .inr
      · rintro (rfl | member)
        · exact Table.mem_of_lookup found
        · exact member
  | none =>
      have inserted : (state.register call).dnsResolving =
          state.dnsResolving.insert (state.calls call).key state.notify.fresh := by
        simp only [State.register, found]
      rw [inserted, AList.mem_insert]

theorem register_dnsCache : (state.register call).dnsCache = state.dnsCache := by
  unfold State.register
  dsimp only
  split
  · rfl
  · rfl

/-- A pass without a cached address marks the key, whether it was marked or not. -/
theorem tables_register :
    (state.register call).tables = { state.tables with
      dnsResolving :=
        Function.update state.tables.dnsResolving (state.calls call).key true } := by
  have resolving : (fun key => decide (key ∈ (state.register call).dnsResolving)) =
      Function.update (fun key => decide (key ∈ state.dnsResolving)) (state.calls call).key
        true := by
    funext key
    by_cases same : key = (state.calls call).key
    · subst same
      rw [Function.update_self]
      simp [mem_register]
    · rw [Function.update_of_ne same]
      simp [mem_register, same]
  have now : (state.register call).now = state.now := by
    unfold State.register
    dsimp only
    split
    · rfl
    · rfl
  unfold State.tables
  rw [resolving, register_dnsCache, now]

theorem resolved_dnsCache {relay : UdpRelay.State} {id : Nat} {name : Name}
    {datagram : UdpRelay.Datagram} :
    (relay.resolved id name datagram target).dnsCache = relay.dnsCache := by
  cases datagram with
  | first => rfl
  | later payload => rfl

theorem resolved_dnsResolving {relay : UdpRelay.State} {id : Nat} {name : Name}
    {datagram : UdpRelay.Datagram} :
    (relay.resolved id name datagram target).dnsResolving = relay.dnsResolving := by
  cases datagram with
  | first => rfl
  | later payload => rfl

section Passes

variable {setting : Setting} {id : Nat} {datagram : UdpRelay.Datagram}

/-- What a pass of the relay leaves of the tables when no cached address is found. -/
theorem resolve_of_uncached (id : Nat) (datagram : UdpRelay.Datagram) {relay : UdpRelay.State}
    {name : Name} (lookup : setting.text.parseIp name.host = none) (uncached : relay.cached name = none) :
    (relay.resolve setting id name datagram).dnsCache = relay.dnsCache.swapRemove name ∧
      (relay.resolve setting id name datagram).dnsResolving =
        Function.update relay.dnsResolving name true := by
  unfold UdpRelay.State.resolve
  rw [lookup, uncached]
  dsimp only
  split
  · rename_i marked
    exact ⟨rfl, (Function.update_eq_self_iff.mpr marked.symm).symm⟩
  · exact ⟨rfl, rfl⟩

theorem resolve_of_cached (id : Nat) (datagram : UdpRelay.Datagram) {relay : UdpRelay.State}
    {name : Name} {mapped : SocketAddr}
    (lookup : setting.text.parseIp name.host = none) (hit : relay.cached name = some mapped) :
    (relay.resolve setting id name datagram).dnsCache = relay.dnsCache ∧
      (relay.resolve setting id name datagram).dnsResolving = relay.dnsResolving := by
  unfold UdpRelay.State.resolve
  rw [lookup, hit]
  exact ⟨resolved_dnsCache, resolved_dnsResolving⟩

/-- A call that enters does to both tables what a pass of the relay does. -/
theorem tables_enter (lookup : setting.text.parseIp (state.calls call).key.host = none) :
    (state.enter call).tables.dnsCache =
        (state.tables.resolve setting id (state.calls call).key datagram).dnsCache ∧
      (state.enter call).tables.dnsResolving =
        (state.tables.resolve setting id (state.calls call).key datagram).dnsResolving := by
  cases held : state.dnsCache.get (state.calls call).key with
  | none =>
      have uncached : state.tables.cached (state.calls call).key = none := by
        simp only [UdpRelay.State.cached, State.tables, held]
      have entered : state.enter call = state.register call := by
        simp only [State.enter, held]
      obtain ⟨cache, resolving⟩ := resolve_of_uncached id datagram lookup uncached
      rw [cache, resolving, entered, tables_register]
      exact ⟨(IndexMap.swapRemove_of_get_eq_none held).symm, rfl⟩
  | some entry =>
      obtain ⟨mapped, timestamp⟩ := entry
      by_cases young : state.now.durationSince timestamp < Consts.udpDnsCacheTtl
      · have hit : state.tables.cached (state.calls call).key = some mapped := by
          simp only [UdpRelay.State.cached, State.tables, held]
          exact if_pos young
        have entered : state.enter call = state.setPc call (.finished (.resolved mapped)) := by
          simp only [State.enter, held, if_pos young]
        obtain ⟨cache, resolving⟩ := resolve_of_cached id datagram lookup hit
        rw [cache, resolving, entered]
        exact ⟨rfl, rfl⟩
      · have uncached : state.tables.cached (state.calls call).key = none := by
          simp only [UdpRelay.State.cached, State.tables, held]
          exact if_neg young
        have entered : state.enter call = State.register
            { state with dnsCache := state.dnsCache.swapRemove (state.calls call).key }
              call := by
          simp only [State.enter, held, if_neg young]
        obtain ⟨cache, resolving⟩ := resolve_of_uncached id datagram lookup uncached
        rw [cache, resolving, entered, tables_register]
        exact ⟨rfl, rfl⟩

end Passes

end Juicity.Server.DnsFlight
