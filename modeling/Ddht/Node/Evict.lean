import Ddht.Node.Step

/-!
# Evicting the least recently seen entry

A pass of `_ping_oldest_routing_table_entry` bonds with the first entry of oldest last PONG and
evicts it when the bond fails. The order `iter_all_random` gives, the keep-alive and the time
are parameters.
-/

namespace Ddht

namespace Network

/-- `min(cons(first, rest), key=key)`: the first node of least key. -/
def leastRecentlyPonged (key : NodeId → Int) : NodeId → List NodeId → NodeId
  | first, [] => first
  | first, x :: rest => leastRecentlyPonged key (if key x < key first then x else first) rest

theorem leastRecentlyPonged_mem (key : NodeId → Int) :
    ∀ (first : NodeId) (rest : List NodeId), leastRecentlyPonged key first rest ∈ first :: rest
  | first, [] => List.mem_singleton_self first
  | first, x :: rest => by
    rw [leastRecentlyPonged]
    split_ifs
    · exact List.subset_cons_self first _ (leastRecentlyPonged_mem key x rest)
    · exact List.cons_subset_cons first (List.subset_cons_self x rest)
        (leastRecentlyPonged_mem key first rest)

variable (remote : Remote)

/-- A pass of `_ping_oldest_routing_table_entry` over the entries in `order`, `_last_pong_at`
being `lastPongAt`: `none` when it sleeps, else what `bond` gave and the network after removal. -/
def pingOldestRoutingTableEntry (net : Network) (order : List NodeId)
    (lastPongAt : NodeId → Option Int) (now routingTableKeepAlive : Int) :
    Option (Except NetError Bool × Network) :=
  match order with
  | [] => none
  | first :: rest =>
    let nodeId := leastRecentlyPonged (fun n => (lastPongAt n).getD 0) first rest
    if (lastPongAt nodeId).any fun lastPong => now - routingTableKeepAlive < lastPong then none
    else
      match bond remote net nodeId none with
      | (.ok false, net') => some (.ok false, net'.removeFromRoutingTable nodeId)
      | result => some result

end Network

namespace Node

variable (remote : Remote)

end Node

end Ddht
