import XeusZmq.Middleware

/-!
What the search for a free port returns, and what its callers make of a search that has
failed.
-/

namespace XeusZmq.FreePorts

open XeusZmq.Values
open XeusZmq.DecimalText
open XeusZmq.Loops
open XeusZmq.Middleware

section Search

variable (net : Network) (transport ip : Bytes) (maxTries : SizeT)

/-- The end point of the port drawn in a round. -/
def endPointOf (i : Nat) : Bytes :=
  getEndPoint transport ip (toStdString (net.draws i))

def Fails (i : Nat) : Prop :=
  ∃ num, net.binds i = .error num

/-- The counter, which may have wrapped around, lets the round try to bind. -/
def Allowed (maxTries : SizeT) (i : Nat) : Prop :=
  (i + 1) % 2 ^ 64 ≤ maxTries.val

def searchStart : PortSearch :=
  ⟨0, [], 0, .fresh⟩

/-- The state after rounds that have all tried to bind and failed. -/
def failedRounds (n : Nat) : PortSearch where
  tries := n % 2 ^ 64
  rdPort := if n = 0 then [] else toStdString (net.draws (n - 1))
  draws := n
  socket := ⟨(List.range n).map (endPointOf net transport ip), []⟩

theorem toStdString_ne_nil (value : Int) : toStdString value ≠ [] := by
  unfold toStdString
  split_ifs
  · exact decimal_ne_nil _
  · simp

variable {net transport ip maxTries}

theorem step_failedRounds {n : Nat} (hallowed : Allowed maxTries n) :
    PortSearch.step net transport ip maxTries (failedRounds net transport ip n) =
      match net.binds n with
      | .ok reported =>
          (false, ⟨(n + 1) % 2 ^ 64, toStdString (net.draws n), n + 1,
            ⟨(List.range (n + 1)).map (endPointOf net transport ip),
              [⟨endPointOf net transport ip n, reported⟩]⟩⟩)
      | .error _ => (true, failedRounds net transport ip (n + 1)) := by
  have htries : (n % 2 ^ 64 + 1) % 2 ^ 64 = (n + 1) % 2 ^ 64 := by omega
  have hattempts : (failedRounds net transport ip n).socket.attempts.length = n := by
    simp [failedRounds]
  rw [PortSearch.step, Socket.zmqBind, hattempts]
  simp only [failedRounds, htries]
  rw [Allowed] at hallowed
  rw [if_pos hallowed, List.range_succ, List.map_append]
  cases net.binds n <;> rfl

theorem step_failedRounds_of_not_allowed {n : Nat} (hallowed : ¬ Allowed maxTries n) :
    PortSearch.step net transport ip maxTries (failedRounds net transport ip n) =
      (false, ⟨(n + 1) % 2 ^ 64, toStdString (net.draws n), n + 1,
        ⟨(List.range n).map (endPointOf net transport ip), []⟩⟩) := by
  have htries : (n % 2 ^ 64 + 1) % 2 ^ 64 = (n + 1) % 2 ^ 64 := by omega
  rw [PortSearch.step]
  simp only [failedRounds, htries]
  exact if_neg hallowed

theorem iterate_failedRounds {n : Nat} (h : ∀ i < n, Fails net i ∧ Allowed maxTries i) :
    Stays (PortSearch.step net transport ip maxTries) n searchStart ∧
      (Loops.round (PortSearch.step net transport ip maxTries))^[n] searchStart =
        failedRounds net transport ip n := by
  induction n with
  | zero => exact ⟨fun i hi => absurd hi (Nat.not_lt_zero i), rfl⟩
  | succ n ih =>
      obtain ⟨hstays, hstate⟩ := ih fun i hi => h i (Nat.lt_succ_of_lt hi)
      obtain ⟨⟨num, hbind⟩, hallowed⟩ := h n (Nat.lt_succ_self n)
      have hstep : PortSearch.step net transport ip maxTries (failedRounds net transport ip n) =
          (true, failedRounds net transport ip (n + 1)) := by
        rw [step_failedRounds hallowed, hbind]
      constructor
      · intro i hi
        obtain hlt | rfl := Nat.lt_succ_iff_lt_or_eq.mp hi
        · exact hstays i hlt
        · rw [hstate, hstep]
      · rw [Function.iterate_succ_apply', hstate, Loops.round, hstep]

/-- The search ends with the first round that leaves the loop. -/
theorem search_of_leaves {n fuel : Nat} (h : ∀ i < n, Fails net i ∧ Allowed maxTries i)
    {last : PortSearch}
    (hlast : PortSearch.step net transport ip maxTries (failedRounds net transport ip n) =
      (false, last)) (hfuel : n < fuel) :
    findFreePortImpl fuel net .fresh transport ip maxTries =
      some (if last.tries > maxTries.val then [] else last.rdPort, last.socket) := by
  obtain ⟨hstays, hstate⟩ := @iterate_failedRounds net transport ip maxTries n h
  have hleaves : (PortSearch.step net transport ip maxTries
      ((Loops.round (PortSearch.step net transport ip maxTries))^[n] searchStart)).1 = false := by
    rw [hstate, hlast]
  have hloop := loop_of_leaves hstays hleaves hfuel
  rw [Function.iterate_succ_apply', hstate, Loops.round, hlast] at hloop
  rw [findFreePortImpl]
  change (loop (PortSearch.step net transport ip maxTries) fuel searchStart).map _ = _
  rw [hloop, Option.map_some]

theorem search_of_ok {n fuel : Nat} (h : ∀ i < n, Fails net i ∧ Allowed maxTries i)
    (hallowed : Allowed maxTries n) {reported : Bytes} (hbind : net.binds n = .ok reported)
    (hfuel : n < fuel) :
    findFreePortImpl fuel net .fresh transport ip maxTries =
      some (toStdString (net.draws n), ⟨(List.range (n + 1)).map (endPointOf net transport ip),
        [⟨endPointOf net transport ip n, reported⟩]⟩) := by
  have hstep := @step_failedRounds net transport ip maxTries n hallowed
  rw [hbind] at hstep
  have hnot : ¬ (n + 1) % 2 ^ 64 > maxTries.val := Nat.not_lt.mpr hallowed
  rw [search_of_leaves h hstep hfuel]
  simp only [hnot, if_false]

theorem search_of_exhausted {n fuel : Nat} (h : ∀ i < n, Fails net i ∧ Allowed maxTries i)
    (hallowed : ¬ Allowed maxTries n) (hfuel : n < fuel) :
    findFreePortImpl fuel net .fresh transport ip maxTries =
      some ([], ⟨(List.range n).map (endPointOf net transport ip), []⟩) := by
  have hgt : (n + 1) % 2 ^ 64 > maxTries.val := Nat.lt_of_not_le hallowed
  rw [search_of_leaves h (step_failedRounds_of_not_allowed hallowed) hfuel]
  simp only [hgt, if_true]

theorem search_of_endless (h : ∀ i, Fails net i ∧ Allowed maxTries i) (fuel : Nat) :
    findFreePortImpl fuel net .fresh transport ip maxTries = none := by
  have hnone : loop (PortSearch.step net transport ip maxTries) fuel searchStart = none :=
    loop_eq_none_of_stays (fun n => (iterate_failedRounds fun i _ => h i).1) fuel
  rw [findFreePortImpl]
  change (loop (PortSearch.step net transport ip maxTries) fuel searchStart).map _ = _
  rw [hnone]
  rfl

theorem findFreePortImpl_unique {fuel fuel' : Nat} {a b : Bytes × Socket}
    (ha : findFreePortImpl fuel net .fresh transport ip maxTries = some a)
    (hb : findFreePortImpl fuel' net .fresh transport ip maxTries = some b) : a = b := by
  obtain ⟨s, hs, rfl⟩ := Option.map_eq_some_iff.mp ha
  obtain ⟨s', hs', rfl⟩ := Option.map_eq_some_iff.mp hb
  rw [loop_unique hs hs']

theorem allowed_iff {i : Nat} (hmax : maxTries.val < 2 ^ 64 - 1) (hi : i ≤ maxTries.val) :
    Allowed maxTries i ↔ i < maxTries.val := by
  rw [Allowed, Nat.mod_eq_of_lt (by omega)]
  exact Nat.succ_le_iff

theorem allowed_of_largest (hmax : maxTries.val = 2 ^ 64 - 1) (i : Nat) : Allowed maxTries i := by
  have hlt := Nat.mod_lt (i + 1) (Nat.two_pow_pos 64)
  rw [Allowed]
  omega

theorem not_fails_iff {i : Nat} : ¬ Fails net i ↔ ∃ reported, net.binds i = .ok reported := by
  unfold Fails
  cases net.binds i <;> simp

/-- The first round that binds, if a round before the given one does. -/
theorem exists_first {n : Nat} (h : ∃ k < n, ¬ Fails net k) :
    ∃ k < n, (∀ i < k, Fails net i) ∧ ∃ reported, net.binds k = .ok reported := by
  classical
  have hexists : ∃ k, k < n ∧ ¬ Fails net k := h
  obtain ⟨hless, hok⟩ := Nat.find_spec hexists
  refine ⟨Nat.find hexists, hless, ?_, not_fails_iff.mp hok⟩
  intro i hi
  by_contra hfails
  exact Nat.find_min hexists hi ⟨hi.trans hless, hfails⟩

end Search

/-- How a search ends that has bound at most `maxTries` times. -/
inductive SearchOutcome (net : Network) (transport ip : Bytes) (maxTries : Nat) (port : Bytes)
    (socket : Socket) : Prop
  | found (k : Nat) (reported : Bytes) (hk : k < maxTries) (hearlier : ∀ i < k, Fails net i)
      (hbind : net.binds k = .ok reported) (hport : port = toStdString (net.draws k))
      (hnonempty : port ≠ [])
      (hattempts : socket.attempts = (List.range (k + 1)).map (endPointOf net transport ip))
      (hbindings : socket.bindings = [⟨getEndPoint transport ip port, reported⟩])
  | exhausted (hall : ∀ i < maxTries, Fails net i) (hport : port = [])
      (hattempts : socket.attempts = (List.range maxTries).map (endPointOf net transport ip))
      (hbindings : socket.bindings = [])

theorem SearchOutcome.length_attempts {net : Network} {transport ip port : Bytes} {maxTries : Nat}
    {socket : Socket} (h : SearchOutcome net transport ip maxTries port socket) :
    socket.attempts.length ≤ maxTries := by
  cases h with
  | found k reported hk hearlier hbind hport hnonempty hattempts hbindings =>
      rw [hattempts, List.length_map, List.length_range]
      exact hk
  | exhausted hall hport hattempts hbindings =>
      rw [hattempts, List.length_map, List.length_range]

theorem search_outcome (net : Network) (transport ip : Bytes) {maxTries : SizeT}
    (hmax : maxTries.val < 2 ^ 64 - 1) {fuel : Nat} (hfuel : maxTries.val < fuel) :
    ∃ port socket,
      findFreePortImpl fuel net .fresh transport ip maxTries = some (port, socket) ∧
        SearchOutcome net transport ip maxTries.val port socket := by
  have hallowed : ∀ n ≤ maxTries.val, (∀ i < n, Fails net i) →
      ∀ i < n, Fails net i ∧ Allowed maxTries i := by
    intro n hn hfails i hi
    exact ⟨hfails i hi, (allowed_iff hmax (by omega)).mpr (by omega)⟩
  by_cases hsome : ∃ k < maxTries.val, ¬ Fails net k
  · obtain ⟨k, hk, hearlier, reported, hbind⟩ := exists_first hsome
    have hround : Allowed maxTries k := (allowed_iff hmax hk.le).mpr hk
    refine ⟨_, _, search_of_ok (hallowed k hk.le hearlier) hround hbind (hk.trans hfuel), ?_⟩
    exact .found k reported hk hearlier hbind rfl (toStdString_ne_nil _) rfl rfl
  · have hall : ∀ i < maxTries.val, Fails net i := by
      intro i hi
      by_contra hfails
      exact hsome ⟨i, hi, hfails⟩
    have hlast : ¬ Allowed maxTries maxTries.val := by
      rw [allowed_iff hmax le_rfl]
      exact Nat.lt_irrefl _
    refine ⟨_, _, search_of_exhausted (hallowed _ le_rfl hall) hlast hfuel, ?_⟩
    exact .exhausted hall rfl rfl rfl

/-- The search ends whatever is drawn and bound, and tells the one port that it has bound. -/
theorem findFreePortImpl_outcome (net : Network) (transport ip : Bytes) (maxTries : SizeT)
    (hmax : maxTries.val < 2 ^ 64 - 1) :
    ∃ port socket, (∀ fuel, maxTries.val < fuel →
        findFreePortImpl fuel net .fresh transport ip maxTries = some (port, socket)) ∧
      socket.attempts.length ≤ maxTries.val ∧
      SearchOutcome net transport ip maxTries.val port socket := by
  obtain ⟨port, socket, hsearch, houtcome⟩ :=
    search_outcome net transport ip hmax (Nat.lt_succ_self maxTries.val)
  refine ⟨port, socket, fun fuel hfuel => ?_, houtcome.length_attempts, houtcome⟩
  obtain ⟨port', socket', hsearch', -⟩ := search_outcome net transport ip hmax hfuel
  rw [hsearch', findFreePortImpl_unique hsearch hsearch']

/-- The first port is taken, the second is free. -/
def secondPort : Network where
  draws i := 50000 + i
  binds i := if i = 1 then .ok (literal "tcp://127.0.0.1:50001") else .error 98

theorem findFreePortImpl_outcome_secondPort :
    ∃ port socket, (∀ fuel, 2 < fuel →
        findFreePortImpl fuel secondPort .fresh tcp localhost 2 = some (port, socket)) ∧
      socket.attempts.length ≤ 2 ∧ SearchOutcome secondPort tcp localhost 2 port socket :=
  findFreePortImpl_outcome secondPort tcp localhost 2 (by decide)

/-! The two callers. -/

def InitSocketBinds (net : Network) (transport ip port : Bytes) : Prop :=
  ∃ fuel result socket, initSocket fuel net .fresh transport ip port = some (result, socket) ∧
    (result = .ok () → socket.bindings ≠ [])

def FindFreePortReturns (net : Network) (maxTries : SizeT) : Prop :=
  ∃ fuel port, findFreePort fuel net maxTries = some (.ok port) ∧
    (port = [] ∨ ∃ k reported, net.binds k = .ok reported ∧ port = toStdString (net.draws k))

structure BoundOrRaised (net : Network) (transport ip port : Bytes) (maxTries : SizeT) :
    Prop where
  initSocket : InitSocketBinds net transport ip port
  findFreePort : FindFreePortReturns net maxTries

/-- What becomes of the search in `init_socket`. -/
theorem initSocket_search (fuel : Nat) (net : Network) (transport ip : Bytes) :
    initSocket fuel net .fresh transport ip [] =
      (findFreePortImpl fuel net .fresh transport ip 100).map fun found => (.ok (), found.2) :=
  if_neg (not_not.mpr rfl)

theorem initSocketBinds_search {net : Network} {transport ip : Bytes} :
    InitSocketBinds net transport ip [] ↔ ∃ k < 100, ¬ Fails net k := by
  obtain ⟨port, socket, hsearch, houtcome⟩ :=
    @search_outcome net transport ip 100 (by decide) 101 (by decide)
  constructor
  · rintro ⟨fuel, result, socket', hresult, hbound⟩
    rw [initSocket_search] at hresult
    obtain ⟨found, hfound, heq⟩ := Option.map_eq_some_iff.mp hresult
    obtain rfl := findFreePortImpl_unique hsearch hfound
    obtain ⟨rfl, rfl⟩ := Prod.mk.inj heq
    cases houtcome with
    | found k reported hk hearlier hbind => exact ⟨k, hk, not_fails_iff.mpr ⟨reported, hbind⟩⟩
    | exhausted hall hport hattempts hbindings => exact absurd hbindings (hbound rfl)
  · rintro ⟨k, hk, hok⟩
    refine ⟨101, .ok (), socket, ?_, fun _ => ?_⟩
    · rw [initSocket_search, hsearch]
      rfl
    · cases houtcome with
      | found k' reported hk' hearlier hbind hport hnonempty hattempts hbindings =>
          rw [hbindings]
          exact List.cons_ne_nil _ _
      | exhausted hall => exact absurd (hall k hk) hok

theorem initSocketBinds_of_port {net : Network} {transport ip port : Bytes} (h : port ≠ []) :
    InitSocketBinds net transport ip port := by
  refine ⟨0, _, _, if_pos h, ?_⟩
  rcases hbind : net.binds 0 with num | reported <;>
    simp [Socket.zmqBind, Socket.fresh, hbind]

theorem initSocketBinds_iff {net : Network} {transport ip port : Bytes} :
    InitSocketBinds net transport ip port ↔ port ≠ [] ∨ ∃ k < 100, ¬ Fails net k := by
  by_cases hport : port = []
  · subst hport
    rw [initSocketBinds_search, or_iff_right (not_not.mpr rfl)]
  · exact iff_of_true (initSocketBinds_of_port hport) (.inl hport)

/-- What `find_free_port` makes of the outcome of the search. -/
theorem findFreePort_eq_some {fuel : Nat} {net : Network} {maxTries : SizeT} {port : Bytes}
    {socket : Socket}
    (h : findFreePortImpl fuel net .fresh tcp localhost maxTries = some (port, socket)) :
    findFreePort fuel net maxTries = some
      (if socket.bindings.any fun binding => binding.reported == getEndPoint tcp localhost port
        then .ok port else .error (.exception (.zmqError Socket.enoent))) := by
  simp only [findFreePort, h, Option.map_some, Socket.unbind]
  split_ifs <;> rfl

/-- The rounds that a search reaches: a counter that cannot exceed its limit ends none. -/
def Within (maxTries : SizeT) (k : Nat) : Prop :=
  k < maxTries.val ∨ maxTries.val = 2 ^ 64 - 1

theorem Within.allowed {maxTries : SizeT} {k : Nat} (h : Within maxTries k) :
    Allowed maxTries k := by
  by_cases hmax : maxTries.val = 2 ^ 64 - 1
  · exact allowed_of_largest hmax k
  · have hk : k < maxTries.val := h.resolve_right hmax
    have hlt := maxTries.isLt
    exact (allowed_iff (by omega) hk.le).mpr hk

theorem Within.of_le {maxTries : SizeT} {i k : Nat} (h : Within maxTries k) (hi : i ≤ k) :
    Within maxTries i :=
  h.imp_left hi.trans_lt

section FindFreePort

variable {net : Network} {maxTries : SizeT}

theorem search_of_bound {k : Nat} {reported : Bytes} (hk : Within maxTries k)
    (hearlier : ∀ i < k, Fails net i) (hbind : net.binds k = .ok reported) :
    findFreePortImpl (k + 1) net .fresh tcp localhost maxTries = some (toStdString (net.draws k),
      ⟨(List.range (k + 1)).map (endPointOf net tcp localhost),
        [⟨endPointOf net tcp localhost k, reported⟩]⟩) :=
  search_of_ok (fun i hi => ⟨hearlier i hi, (hk.of_le hi.le).allowed⟩) hk.allowed hbind
    (Nat.lt_succ_self k)

theorem findFreePortReturns_of_bound {k : Nat} (hk : Within maxTries k)
    (hearlier : ∀ i < k, Fails net i)
    (hbind : net.binds k = .ok (endPointOf net tcp localhost k)) :
    FindFreePortReturns net maxTries := by
  have hsearch := search_of_bound hk hearlier hbind
  refine ⟨k + 1, toStdString (net.draws k), ?_, .inr ⟨k, _, hbind, rfl⟩⟩
  rw [findFreePort_eq_some hsearch, if_pos]
  simp [endPointOf]

/-- A port that has been found is lost again when its end point goes by another name. -/
theorem reported_of_findFreePortReturns {k : Nat} {reported : Bytes} (hk : Within maxTries k)
    (hearlier : ∀ i < k, Fails net i) (hbind : net.binds k = .ok reported)
    (h : FindFreePortReturns net maxTries) : reported = endPointOf net tcp localhost k := by
  have hsearch := search_of_bound hk hearlier hbind
  obtain ⟨fuel, port, hport, -⟩ := h
  obtain ⟨found, hfound, -⟩ := Option.map_eq_some_iff.mp hport
  obtain rfl := findFreePortImpl_unique hsearch hfound
  rw [findFreePort_eq_some hfound] at hport
  by_contra hne
  have hunknown : (reported == getEndPoint tcp localhost (toStdString (net.draws k))) = false :=
    beq_eq_false_iff_ne.mpr hne
  simp [hunknown] at hport

theorem not_findFreePortReturns_of_fails (h : ∀ k, Within maxTries k → Fails net k) :
    ¬ FindFreePortReturns net maxTries := by
  rintro ⟨fuel, port, hport, -⟩
  obtain ⟨found, hfound, -⟩ := Option.map_eq_some_iff.mp hport
  by_cases hmax : maxTries.val = 2 ^ 64 - 1
  · have hnone := @search_of_endless net tcp localhost maxTries
      (fun i => ⟨h i (.inr hmax), allowed_of_largest hmax i⟩) fuel
    rw [hnone] at hfound
    cases hfound
  · have hlt := maxTries.isLt
    have hlast : ¬ Allowed maxTries maxTries.val := by
      rw [allowed_iff (by omega) le_rfl]
      exact Nat.lt_irrefl _
    have hsearch := @search_of_exhausted net tcp localhost maxTries maxTries.val _
      (fun i hi => ⟨h i (.inl hi), Within.allowed (.inl hi)⟩) hlast (Nat.lt_succ_self _)
    obtain rfl := findFreePortImpl_unique hsearch hfound
    rw [findFreePort_eq_some hfound] at hport
    simp at hport

theorem findFreePortReturns_iff :
    FindFreePortReturns net maxTries ↔
      ∃ k, Within maxTries k ∧ (∀ i < k, Fails net i) ∧
        net.binds k = .ok (endPointOf net tcp localhost k) := by
  constructor
  · intro h
    have hsome : ∃ k, Within maxTries k ∧ ¬ Fails net k := by
      by_contra hnone
      refine not_findFreePortReturns_of_fails (fun k hk => ?_) h
      by_contra hfails
      exact hnone ⟨k, hk, hfails⟩
    obtain ⟨n, hn, hok⟩ := hsome
    obtain ⟨k, hk, hearlier, reported, hbind⟩ := exists_first ⟨n, Nat.lt_succ_self n, hok⟩
    have hwithin : Within maxTries k := hn.of_le (Nat.le_of_lt_succ hk)
    obtain rfl := reported_of_findFreePortReturns hwithin hearlier hbind h
    exact ⟨k, hwithin, hearlier, hbind⟩
  · rintro ⟨k, hk, hearlier, hbind⟩
    exact findFreePortReturns_of_bound hk hearlier hbind

end FindFreePort

/-- Neither caller notices that no port was free. -/
theorem boundOrRaised_iff (net : Network) (transport ip port : Bytes) (maxTries : SizeT) :
    BoundOrRaised net transport ip port maxTries ↔
      (port ≠ [] ∨ ∃ k < 100, ∃ reported, net.binds k = .ok reported) ∧
        ∃ k, Within maxTries k ∧ (∀ i < k, Fails net i) ∧
          net.binds k = .ok (endPointOf net tcp localhost k) := by
  have hinit := @initSocketBinds_iff net transport ip port
  simp only [not_fails_iff] at hinit
  rw [← hinit, ← findFreePortReturns_iff]
  exact ⟨fun h => ⟨h.initSocket, h.findFreePort⟩, fun h => ⟨h.1, h.2⟩⟩

/-- Every port is taken. -/
def noFreePort : Network where
  draws i := 49152 + i
  binds _ := .error 98

theorem not_boundOrRaised_noFreePort : ¬ BoundOrRaised noFreePort tcp localhost [] 100 := by
  intro h
  refine not_findFreePortReturns_of_fails (fun k _ => ?_) h.findFreePort
  exact ⟨98, rfl⟩

end XeusZmq.FreePorts
