import Balancer.Foundation.Rotation
import Balancer.Guarantees.Redispatch

/-! How weighted round robin shares the calls out. The sums of the weights are 32-bit numbers, and so is
the counter that goes round. -/

namespace Balancer.Guarantees
open Foundation Http Core

namespace Rotation

/-- What a call of `select_backend` finds: the backends of the pool, what they are like now, the cap and
the sticky pair. -/
structure Query where
  backends : List NodeId
  nodes : FiniteMap NodeId BackendNode
  maxConnections : Nat
  stickyHost : Bytes
  stickyPort : Nat

namespace Query
variable (query : Query) (pool : BackendPool)

def select : Option NodeId × BackendPool :=
  { pool with backends := query.backends }.selectBackend query.nodes query.maxConnections query.stickyHost query.stickyPort

/-- The eligible backends. -/
def healthy : List (NodeId × BackendNode) :=
  (BackendPool.members { backends := query.backends } query.nodes).filter fun entry =>
    BackendPool.eligible query.maxConnections entry.2

/-- The sticky backend, if it is chosen. -/
def sticky : Option NodeId :=
  BackendPool.selectSticky { backends := query.backends } query.nodes query.maxConnections query.stickyHost
    query.stickyPort

end Query

/-- What consecutive calls return. -/
def picks : BackendPool → List Query → List (Option NodeId)
  | _, [] => []
  | pool, query :: queries => (query.select pool).1 :: picks (query.select pool).2 queries

/-- A weight as the constructor leaves it, of a configured 32-bit number. -/
def Made (weight : Nat) : Prop :=
  ∃ host port configured, configured < 2 ^ 32 ∧ (BackendNode.create host port configured).weight = weight

theorem made_iff (weight : Nat) : Made weight ↔ 0 < weight ∧ weight < 2 ^ 32 := by
  constructor
  · rintro ⟨host, port, configured, fits, rfl⟩
    unfold BackendNode.create
    dsimp only
    split <;> omega
  · rintro ⟨positive, fits⟩
    exact ⟨[], 0, weight, fits, if_pos positive⟩

/-- Consecutive calls in round robin that find the same backends eligible, and no sticky one. -/
structure Window where
  /-- The eligible backends in the order of the pool, with their weights. -/
  shares : List (NodeId × Nat)
  made : ∀ share ∈ shares, Made share.2
  pool : BackendPool
  robin : pool.algorithm = .roundRobin
  fits : pool.weightedCounter < 2 ^ 32
  queries : List Query
  same : ∀ query ∈ queries, (query.healthy.map fun entry => (entry.1, entry.2.weight)) = shares
  free : ∀ query ∈ queries, query.sticky = none

/-- The running sum of the weights, in 32 bits. -/
def addShare (sum : Nat) (share : NodeId × Nat) : Nat := (sum + share.2) % 2 ^ 32

/-- What the pool computes as the total. -/
def total (shares : List (NodeId × Nat)) : Nat := shares.foldl addShare 0

/-- The backend a counter comes to. -/
def pickAt (shares : List (NodeId × Nat)) (counter : Nat) : Option NodeId :=
  if total shares = 0 then shares.head?.map Prod.fst
  else ((walk addShare (fun sum => counter % total shares < sum) 0 shares).map Prod.fst).or (shares.head?.map Prod.fst)

section Sums
variable {shares : List (NodeId × Nat)}

theorem foldl_addShare (sum : Nat) (shares : List (NodeId × Nat)) (fits : sum < 2 ^ 32) :
    shares.foldl addShare sum = (sum + weights shares) % 2 ^ 32 := by
  induction shares generalizing sum with
  | nil => exact (Nat.mod_eq_of_lt fits).symm
  | cons share shares ih =>
    have next : addShare sum share < 2 ^ 32 := Nat.mod_lt _ (by decide)
    rw [List.foldl_cons, ih _ next, addShare, Nat.mod_add_mod, weights_cons, Nat.add_assoc]

theorem total_eq (shares : List (NodeId × Nat)) : total shares = weights shares % 2 ^ 32 := by
  rw [total, foldl_addShare 0 shares (by decide), Nat.zero_add]

/-- Without overflow the walk is that over the exact sums. -/
theorem walk_addShare (reached : Nat → Bool) (sum : Nat) (fits : sum + weights shares < 2 ^ 32) :
    walk addShare reached sum shares = walk (fun sum share => sum + share.2) reached sum shares := by
  induction shares generalizing sum with
  | nil => rfl
  | cons share shares ih =>
    rw [weights_cons] at fits
    have here : addShare sum share = sum + share.2 := Nat.mod_eq_of_lt (by omega)
    unfold walk
    rw [here, ih _ (by omega)]

theorem pickAt_exact (fits : weights shares < 2 ^ 32) (some : 0 < weights shares) (counter : Nat) :
    pickAt shares counter = (places shares)[counter % weights shares]? := by
  have whole : total shares = weights shares := by rw [total_eq, Nat.mod_eq_of_lt fits]
  have below : counter % weights shares < (places shares).length := by
    rw [length_places]
    exact Nat.mod_lt _ some
  unfold pickAt
  rw [whole, if_neg some.ne', walk_addShare _ 0 (by omega), walk_eq_places (Nat.zero_le _), Nat.sub_zero,
    List.getElem?_eq_getElem below, Option.some_or]

end Sums

/-- Round robin over the eligible backends depends on their weights only. -/
theorem selectWeightedRoundRobin_eq (pool : BackendPool) (healthy : List (NodeId × BackendNode)) :
    let shares := healthy.map fun entry => (entry.1, entry.2.weight)
    pool.selectWeightedRoundRobin healthy = (pickAt shares pool.weightedCounter,
      if total shares = 0 then pool else { pool with weightedCounter := (pool.weightedCounter + 1) % 2 ^ 32 }) := by
  dsimp only
  have whole : BackendPool.totalWeight healthy = total (healthy.map fun entry => (entry.1, entry.2.weight)) := by
    rw [total, List.foldl_map]
    rfl
  have first : (healthy.map fun entry => (entry.1, entry.2.weight)).head?.map Prod.fst = healthy.head?.map Prod.fst := by
    cases healthy <;> rfl
  unfold BackendPool.selectWeightedRoundRobin pickAt
  dsimp only
  rw [whole, first]
  by_cases nothing : total (healthy.map fun entry => (entry.1, entry.2.weight)) = 0
  · rw [if_pos nothing, if_pos nothing, if_pos nothing]
  · rw [if_neg nothing, if_neg nothing, if_neg nothing, Redispatch.pickWeighted_eq, walk_map, Option.map_map]
    rfl

/-- A call in the window. -/
theorem select_eq {query : Query} {pool : BackendPool} {shares : List (NodeId × Nat)} (robin : pool.algorithm = .roundRobin)
    (same : (query.healthy.map fun entry => (entry.1, entry.2.weight)) = shares) (free : query.sticky = none) :
    query.select pool = (pickAt shares pool.weightedCounter,
      { pool with
        backends := query.backends
        weightedCounter := if total shares = 0 then pool.weightedCounter else (pool.weightedCounter + 1) % 2 ^ 32 }) := by
  have chosen : query.select pool = { pool with backends := query.backends }.selectWeightedRoundRobin query.healthy := by
    have nobody : BackendPool.selectSticky { pool with backends := query.backends } query.nodes query.maxConnections
        query.stickyHost query.stickyPort = none := free
    unfold Query.select BackendPool.selectBackend
    rw [nobody]
    dsimp only
    rw [robin]
    change (if query.healthy = [] then _ else _) = _
    split
    case isTrue none =>
      rw [none]
      rfl
    case isFalse => rfl
  rw [chosen, selectWeightedRoundRobin_eq, same]
  dsimp only
  split <;> rfl

/-- Where the counter stands at each call: it goes on by one, unless the total is zero. -/
theorem picks_eq {shares : List (NodeId × Nat)} {queries : List Query} {pool : BackendPool}
    (robin : pool.algorithm = .roundRobin) (fits : pool.weightedCounter < 2 ^ 32)
    (same : ∀ query ∈ queries, (query.healthy.map fun entry => (entry.1, entry.2.weight)) = shares)
    (free : ∀ query ∈ queries, query.sticky = none) :
    picks pool queries = (List.range queries.length).map fun step =>
      pickAt shares (if total shares = 0 then pool.weightedCounter else (pool.weightedCounter + step) % 2 ^ 32) := by
  induction queries generalizing pool with
  | nil => rfl
  | cons query queries ih =>
    have here := select_eq robin (same query List.mem_cons_self) (free query List.mem_cons_self)
    rw [picks, here, List.length_cons, List.range_succ_eq_map, List.map_cons, List.map_map]
    dsimp only
    rw [ih (by exact robin) ?_ (fun other member => same other (List.mem_cons_of_mem _ member))
      (fun other member => free other (List.mem_cons_of_mem _ member))]
    · dsimp only
      by_cases nothing : total shares = 0
      · simp only [if_pos nothing]
        rfl
      · simp only [if_neg nothing, Nat.add_zero, Nat.mod_eq_of_lt fits, Nat.mod_add_mod]
        congr 1
        refine List.map_congr_left fun step _ => ?_
        rw [Function.comp_apply, Nat.succ_eq_add_one, Nat.add_assoc, Nat.add_comm 1]
    · dsimp only
      split
      · exact fits
      · exact Nat.mod_lt _ (by decide)

namespace Window
variable (window : Window)

def picks : List (Option NodeId) := Rotation.picks window.pool window.queries

theorem positive {share : NodeId × Nat} (member : share ∈ window.shares) : 0 < share.2 :=
  ((made_iff share.2).mp (window.made share member)).1

theorem shares_eq_nil (nothing : weights window.shares = 0) : window.shares = [] := by
  cases listed : window.shares with
  | nil => rfl
  | cons share shares =>
    have some := window.positive (listed ▸ List.mem_cons_self : share ∈ window.shares)
    rw [listed, weights_cons] at nothing
    omega

/-- Without overflow the calls go round the places. -/
theorem picks_exact (exact : weights window.shares < 2 ^ 32) : window.picks =
    (List.range window.queries.length).map fun step =>
      (places window.shares)[(window.pool.weightedCounter + step) % 2 ^ 32 % weights window.shares]? := by
  unfold picks
  rw [picks_eq window.robin window.fits window.same window.free]
  refine List.map_congr_left fun step _ => ?_
  by_cases nothing : weights window.shares = 0
  · rw [window.shares_eq_nil nothing]
    rfl
  · rw [if_neg (by rwa [total_eq, Nat.mod_eq_of_lt exact]), pickAt_exact exact (Nat.pos_of_ne_zero nothing)]

theorem count_picks (exact : weights window.shares < 2 ^ 32)
    (unwrapped : window.pool.weightedCounter + window.queries.length ≤ 2 ^ 32) (id : NodeId) :
    window.picks.count (some id) =
      Nat.count (fun step => Stands window.shares id (window.pool.weightedCounter + step)) window.queries.length := by
  have along : window.picks = (List.range window.queries.length).map fun step =>
      (places window.shares)[(window.pool.weightedCounter + step) % weights window.shares]? := by
    rw [window.picks_exact exact]
    refine List.map_congr_left fun step member => ?_
    have early := List.mem_range.mp member
    rw [Nat.mod_eq_of_lt (by omega : window.pool.weightedCounter + step < 2 ^ 32)]
  rw [along]
  exact count_range_map
    (fun step => (places window.shares)[(window.pool.weightedCounter + step) % weights window.shares]?) (some id) _

end Window

/-- As many calls as the weights add up to come to each backend as often as its weight says; of any number of
calls it gets its weight for each time they go round, and no more than its weight for each time begun. -/
theorem proportional (window : Window) (exact : weights window.shares < 2 ^ 32)
    (unwrapped : window.pool.weightedCounter + window.queries.length ≤ 2 ^ 32) :
    ((window.shares.map Prod.fst).Nodup → ∀ share ∈ window.shares, weightOf window.shares share.1 = share.2) ∧
    ∀ id, let calls := window.queries.length
      let whole := weights window.shares
      let weight := weightOf window.shares id
      (calls = whole → window.picks.count (some id) = weight) ∧
      calls / whole * weight ≤ window.picks.count (some id) ∧
      window.picks.count (some id) ≤ (calls + whole - 1) / whole * weight := by
  refine ⟨fun distinct share => weightOf_listed distinct, fun id => ?_⟩
  dsimp only
  rw [window.count_picks exact unwrapped, ← count_stands]
  have periodic := stands_periodic window.shares id
  have bounds := count_window periodic window.pool.weightedCounter window.queries.length
  refine ⟨fun same => ?_, bounds.1, ?_⟩
  · rw [same]
    exact count_period periodic _
  · rcases Nat.eq_zero_or_pos (weights window.shares) with nothing | some
    · -- nobody is eligible
      have nobody : ∀ step, ¬ Stands window.shares id (window.pool.weightedCounter + step) := by
        intro step
        rw [Stands, window.shares_eq_nil nothing]
        simp
      simp [nobody]
    · exact bounds.2 some

/-- The backend with which the weights overflow: the sum up to it is less than the one before, which a counter
that has not stopped earlier has passed. -/
theorem overflown_starves {before after : List (NodeId × Nat)} {share : NodeId × Nat}
    (distinct : ((before ++ share :: after).map Prod.fst).Nodup) (fits : share.2 < 2 ^ 32)
    (below : weights before < 2 ^ 32) (above : 2 ^ 32 ≤ weights before + share.2) (counter : Nat) :
    pickAt (before ++ share :: after) counter ≠ some share.1 := by
  have begun : before ≠ [] := by
    rintro rfl
    rw [weights_nil] at above
    omega
  have elsewhere : (before ++ share :: after).head?.map Prod.fst ≠ some share.1 := by
    obtain ⟨first, rest, rfl⟩ := List.exists_cons_of_ne_nil begun
    intro same
    rw [List.cons_append, List.map_cons, List.nodup_cons] at distinct
    refine distinct.1 ?_
    rw [Option.some_inj.mp same]
    simp
  unfold pickAt
  by_cases nothing : total (before ++ share :: after) = 0
  · rw [if_pos nothing]
    exact elsewhere
  · rw [if_neg nothing]
    cases stopped : walk addShare (fun sum => counter % total (before ++ share :: after) < sum) 0 (before ++ share :: after) with
    | none => simpa using elsewhere
    | some entry =>
      rw [Option.map_some, Option.some_or]
      intro same
      obtain ⟨before', after', split, missed, reached⟩ := walk_eq_some_iff.mp stopped
      obtain ⟨rfl, rfl⟩ := split_unique distinct rfl split (Option.some_inj.mp same).symm
      have passed := missed before begun List.prefix_rfl
      rw [foldl_addShare 0 before (by decide), Nat.zero_add, Nat.mod_eq_of_lt below, decide_eq_false_iff_not] at passed
      rw [foldl_addShare 0 _ (by decide), Nat.zero_add, weights_append, weights_cons, weights_nil, Nat.add_zero,
        decide_eq_true_eq, Nat.mod_eq_sub_mod above,
        Nat.mod_eq_of_lt (by omega : weights before + share.2 - 2 ^ 32 < 2 ^ 32)] at reached
      omega

/-- The places are no more than the values of the counter, which takes them all. -/
theorem Window.served (window : Window) (exact : weights window.shares < 2 ^ 32)
    (long : window.queries.length = 2 ^ 32) {share : NodeId × Nat} (member : share ∈ window.shares) :
    some share.1 ∈ window.picks := by
  obtain ⟨place, below, has⟩ := List.mem_iff_getElem.mp (mem_places member (window.positive member))
  rw [length_places] at below
  rw [window.picks_exact exact, long]
  have fits := window.fits
  refine List.mem_map.mpr ⟨(place + 2 ^ 32 - window.pool.weightedCounter) % 2 ^ 32,
    List.mem_range.mpr (Nat.mod_lt _ (by decide)), ?_⟩
  have comes : (window.pool.weightedCounter + (place + 2 ^ 32 - window.pool.weightedCounter) % 2 ^ 32) % 2 ^ 32 = place := by
    rw [Nat.add_mod_mod, Nat.add_sub_cancel' (by omega), Nat.add_mod_right, Nat.mod_eq_of_lt (by omega)]
  rw [comes, Nat.mod_eq_of_lt below, List.getElem?_eq_getElem (by rwa [length_places]), has]

/-- A backend that is never picked in a window is not among its picks. -/
theorem Window.not_mem_picks (window : Window) {id : NodeId} (never : ∀ counter, pickAt window.shares counter ≠ some id) :
    some id ∉ window.picks := by
  unfold picks
  rw [picks_eq window.robin window.fits window.same window.free]
  intro member
  obtain ⟨step, _, picked⟩ := List.mem_map.mp member
  exact never _ picked

/-- No eligible backend starves while the counter takes all its values, exactly when the sum of the weights
is a 32-bit number. -/
theorem served_iff (window : Window) (long : window.queries.length = 2 ^ 32)
    (distinct : (window.shares.map Prod.fst).Nodup) :
    (∀ share ∈ window.shares, some share.1 ∈ window.picks) ↔ weights window.shares < 2 ^ 32 := by
  refine ⟨fun served => ?_, fun exact share member => window.served exact long member⟩
  by_contra overflow
  obtain ⟨before, share, after, split, below, above⟩ := exists_crossing (by decide) (not_lt.mp overflow)
  have member : share ∈ window.shares := by
    rw [split]
    simp
  rw [split] at distinct
  have fits := ((made_iff share.2).mp (window.made share member)).2
  refine window.not_mem_picks (fun counter => ?_) (served share member)
  rw [split]
  exact overflown_starves distinct fits below above counter

/-- Two backends, in calls without a cap and without a session. -/
def pairQuery (first second : Nat) : Query where
  backends := [1, 2]
  nodes := (FiniteMap.insert ∅ 1 (.create (ascii "a") 80 first)).insert 2 (.create (ascii "b") 80 second)
  maxConnections := 0
  stickyHost := []
  stickyPort := 0

def pairWindow (first second calls counter : Nat) (made : Made first ∧ Made second) (fits : counter < 2 ^ 32) : Window where
  shares := [(1, first), (2, second)]
  made := by simpa using made
  pool := { backends := [1, 2], weightedCounter := counter }
  robin := rfl
  fits := fits
  queries := List.replicate calls (pairQuery first second)
  same := by
    intro query member
    rw [List.eq_of_mem_replicate member]
    have one := ((made_iff first).mp made.1).1
    have two := ((made_iff second).mp made.2).1
    simp [pairQuery, Query.healthy, BackendPool.members, BackendPool.eligible, BackendNode.create, one, two]
  free := by
    intro query member
    rw [List.eq_of_mem_replicate member]
    rfl

def threeToOne : Window :=
  pairWindow 3 1 4 5 ⟨(made_iff 3).mpr (by decide), (made_iff 1).mpr (by decide)⟩ (by decide)

theorem threeToOne_proportional : threeToOne.picks.count (some 1) = 3 ∧ threeToOne.picks.count (some 2) = 1 :=
  have shared := (proportional threeToOne (by decide) (by decide)).2
  ⟨(shared 1).1 rfl, (shared 2).1 rfl⟩

/-- As many calls as the counter has values. -/
def whole (first second : Nat) (made : Made first ∧ Made second) : Window := pairWindow first second (2 ^ 32) 0 made (by decide)

theorem whole_queries {first second : Nat} (made : Made first ∧ Made second) :
    (whole first second made).queries.length = 2 ^ 32 := by
  unfold whole pairWindow
  rw [List.length_replicate]

theorem whole_shares {first second : Nat} (made : Made first ∧ Made second) :
    (whole first second made).shares = [(1, first), (2, second)] := rfl

/-- The weights of `threeToOne`. -/
def three : Window := whole 3 1 ⟨(made_iff 3).mpr (by decide), (made_iff 1).mpr (by decide)⟩

theorem three_served : some 1 ∈ three.picks ∧ some 2 ∈ three.picks :=
  have served := (served_iff three (whole_queries _) (by decide)).mpr (by decide)
  ⟨served (1, 3) (by rw [three, whole_shares]; simp), served (2, 1) (by rw [three, whole_shares]; simp)⟩

theorem made_half : Made (2 ^ 31) := (made_iff _).mpr (by decide)

/-- Two weights whose sum is zero in 32 bits. -/
def overflown : Window := whole (2 ^ 31) (2 ^ 31) ⟨made_half, made_half⟩

theorem second_starves : overflown.queries.length = 2 ^ 32 ∧ (2, 2 ^ 31) ∈ overflown.shares ∧ some 2 ∉ overflown.picks := by
  refine ⟨whole_queries _, by rw [overflown, whole_shares]; simp, overflown.not_mem_picks fun counter => ?_⟩
  rw [overflown, whole_shares]
  exact @overflown_starves [(1, 2 ^ 31)] [] (2, 2 ^ 31) (by decide) (by decide) (by decide) (by decide) counter

end Rotation

end Balancer.Guarantees
