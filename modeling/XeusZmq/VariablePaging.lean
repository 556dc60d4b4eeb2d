import XeusZmq.StackTraceFilter

/-!
The pages of a list of variables: what `variables_request_impl` makes of the reply of the
debugger for a start and a count.
-/

namespace XeusZmq.VariablePaging

open XeusZmq.Values
open XeusZmq.JsonAccess
open XeusZmq.JsonPaths
open XeusZmq.Commands
open XeusZmq.TabledJson
open XeusZmq.Debugger
open XeusZmq.DebuggerSession
open XeusZmq.StackTraceFilter (ordered_of_forwarded)

def variablesPath : List Step :=
  [.key (literal "body"), .key (literal "variables")]

/-- The variables of a page; a count of zero stands for all that are left. -/
def window (start count : Nat) (vars : List Json) : List Json :=
  if 0 < count then (vars.drop start).take count else vars.drop start

/-- The arguments name a start and a count, or leave them out. -/
structure AsksForPage (message : Json) (start count : Option Nat) : Prop where
  arguments : ∃ arguments, constIndex message (literal "arguments") = .ok arguments ∧
    findMember arguments (literal "start") = start.map (fun (n : Nat) => .integer n) ∧
    findMember arguments (literal "count") = count.map (fun (n : Nat) => .integer n)

/-- The position before which the loop stops. -/
def lastOf (start count : Int) (vars : List Json) : Int :=
  if count = 0 then toInt vars.length else start + count

/-- The positions are those of some elements, and ints. -/
structure Inside (start last : Int) (vars : List Json) : Prop where
  nonneg : 0 ≤ start
  nonempty : start < last
  ends : last ≤ vars.length
  fits : last < 2 ^ 31

def slice (start last : Int) (vars : List Json) : List Json :=
  (vars.drop start.toNat).take (last - start).toNat

/-- The position behind the window. -/
def endOf (start count : Nat) (vars : List Json) : Nat :=
  if count = 0 then vars.length else min (start + count) vars.length

/-- The ints that the two numbers are converted to are both zero or select a page that is
not empty, and it is the page asked for: if the start is an int, it ends where the window
does, and if it is none, its elements come again in a list of more than 2 ^ 32. -/
def Pages (start count : Nat) (vars : List Json) : Prop :=
  let last := lastOf (toInt start) (toInt count) vars
  if toInt start = 0 ∧ toInt count = 0 then
    (start = 0 ∨ vars.length = 0) ∧ (count = 0 ∨ vars.length ≤ count)
  else
    Inside (toInt start) last vars ∧
      (start < 2 ^ 31 ∧ last = endOf start count vars ∨
        2 ^ 32 ≤ start ∧ start < vars.length ∧
          window start count vars = slice (toInt start) last vars)

/-! The window asked for. -/

theorem length_window (start count : Nat) (vars : List Json) :
    (window start count vars).length = endOf start count vars - start := by
  unfold window endOf
  split_ifs <;> simp <;> omega

theorem window_eq_self_iff {start count : Nat} {vars : List Json} :
    window start count vars = vars ↔
      (start = 0 ∨ vars.length = 0) ∧ (count = 0 ∨ vars.length ≤ count) := by
  constructor
  · intro h
    have hlength := length_window start count vars
    rw [h, endOf] at hlength
    split_ifs at hlength <;> omega
  · rintro ⟨hstart, hcount⟩
    have hdrop : vars.drop start = vars := by
      rcases hstart with rfl | hnil
      · rfl
      · rw [List.length_eq_zero_iff.mp hnil, List.drop_nil]
    rw [window, hdrop]
    split_ifs with hpos
    · exact List.take_of_length_le (hcount.resolve_left (Nat.pos_iff_ne_zero.mp hpos))
    · rfl

theorem toInt_natCast {n : Nat} (h : n < 2 ^ 31) : toInt n = n := by
  unfold toInt
  omega

/-- A page from where the window starts is the window if it ends there. -/
theorem window_eq_slice_iff {start count : Nat} {last : Int} {vars : List Json}
    (hinside : Inside start last vars) :
    window start count vars = slice start last vars ↔ last = endOf start count vars := by
  have hnonempty := hinside.nonempty
  have hends := hinside.ends
  have hslice : (slice start last vars).length = (last - start).toNat := by
    rw [slice, List.length_take, List.length_drop]
    omega
  constructor
  · intro h
    have hlength := length_window start count vars
    rw [h, hslice] at hlength
    omega
  · intro h
    rw [window, slice, Int.toNat_natCast]
    unfold endOf at h
    split_ifs with hpos
    · rw [if_neg (Nat.pos_iff_ne_zero.mp hpos)] at h
      rw [List.take_eq_take_iff, List.length_drop]
      omega
    · rw [if_pos (Nat.eq_zero_of_not_pos hpos)] at h
      exact (List.take_of_length_le (by rw [List.length_drop]; omega)).symm

theorem lt_length_of_window_eq {start count : Nat} {first last : Int} {vars : List Json}
    (hinside : Inside first last vars) (h : window start count vars = slice first last vars) :
    start < vars.length := by
  have hnonneg := hinside.nonneg
  have hnonempty := hinside.nonempty
  have hends := hinside.ends
  have hlength := length_window start count vars
  rw [h, slice, List.length_take, List.length_drop, endOf] at hlength
  split_ifs at hlength <;> omega

/-- A start that is no int is converted to a position of the list only from 2 ^ 32 on. -/
theorem window_eq_page_iff {start count : Nat} {last : Int} {vars : List Json}
    (hinside : Inside (toInt start) last vars) :
    window start count vars = slice (toInt start) last vars ↔
      start < 2 ^ 31 ∧ last = endOf start count vars ∨
        2 ^ 32 ≤ start ∧ start < vars.length ∧
          window start count vars = slice (toInt start) last vars := by
  by_cases hint : start < 2 ^ 31
  · have hnot : ¬ 2 ^ 32 ≤ start := by omega
    rw [toInt_natCast hint] at hinside ⊢
    rw [window_eq_slice_iff hinside, iff_true_intro hint, true_and,
      or_iff_left fun h => hnot h.1]
  · have hnonneg := hinside.nonneg
    have hlarge : 2 ^ 32 ≤ start := by
      unfold toInt at hnonneg
      omega
    rw [or_iff_right fun h => hint h.1, iff_true_intro hlarge, true_and]
    exact ⟨fun h => ⟨lt_length_of_window_eq hinside h, h⟩, And.right⟩

/-- The page is returned when it is that of the window. -/
theorem pages_iff {start count : Nat} {vars : List Json} :
    Pages start count vars ↔
      if toInt start = 0 ∧ toInt count = 0 then window start count vars = vars
      else
        Inside (toInt start) (lastOf (toInt start) (toInt count) vars) vars ∧
          window start count vars =
            slice (toInt start) (lastOf (toInt start) (toInt count) vars) vars := by
  unfold Pages
  split_ifs with hzero
  · exact window_eq_self_iff.symm
  · exact and_congr_right fun hinside => (window_eq_page_iff hinside).symm

theorem mapM_eq_ok_of_mem {α β ε : Type} {f : α → Except ε β} {xs : List α} {ys : List β}
    (h : xs.mapM f = .ok ys) {x : α} (hx : x ∈ xs) : ∃ y, f x = .ok y := by
  induction xs generalizing ys with
  | nil => cases hx
  | cons x' xs ih =>
      rw [List.mapM_cons] at h
      obtain ⟨y, hy, h⟩ := bind_eq_ok.mp h
      obtain ⟨ys', hys', -⟩ := bind_eq_ok.mp h
      rcases List.mem_cons.mp hx with rfl | hx
      · exact ⟨y, hy⟩
      · exact ih hys' hx

def positions (start last : Int) : List Int :=
  (List.range (last - start).toNat).map fun (i : Nat) => start + (i : Int)

section Elements

variable {start last : Int} {vars : List Json}

theorem mapM_range_of_inside (first n : Nat) (h : first + n ≤ vars.length) :
    ((List.range n).map fun (i : Nat) => (first : Int) + (i : Int)).mapM
        (valueAt (.array vars)) = .ok ((vars.drop first).take n) := by
  induction n with
  | zero => simp [pure, Except.pure]
  | succ n ih =>
      have hn : n < (vars.drop first).length := by
        rw [List.length_drop]
        omega
      have hvalue : valueAt (.array vars) ((first : Int) + (n : Int)) =
          .ok (vars.drop first)[n] := by
        have hin : first + n < vars.length := by omega
        have hposition : ((first : Int) + (n : Int)).toNat = first + n := by omega
        rw [valueAt, if_pos (by omega), hposition]
        simp [List.getD_eq_getElem?_getD, hin]
      rw [List.range_succ, List.map_append, List.mapM_append, ih (by omega), ok_bind]
      simp [hvalue, pure, Except.pure, List.take_add_one, List.getElem?_eq_getElem hn]

theorem mapM_valueAt_of_inside (h : Inside start last vars) :
    (positions start last).mapM (valueAt (.array vars)) = .ok (slice start last vars) := by
  obtain ⟨first, rfl⟩ := Int.eq_ofNat_of_zero_le h.nonneg
  have hnonempty := h.nonempty
  have hends := h.ends
  exact mapM_range_of_inside first _ (by omega)

/-- The loop reads its first position, and the one before the last. -/
theorem inside_of_mapM_valueAt (hnonempty : start < last) (hfits : last < 2 ^ 31)
    {values : List Json}
    (h : (positions start last).mapM (valueAt (.array vars)) = .ok values) :
    Inside start last vars := by
  have hread : ∀ i < (last - start).toNat, 0 ≤ start + (i : Int) ∧
      start + (i : Int) < vars.length := by
    intro i hi
    obtain ⟨value, hvalue⟩ := mapM_eq_ok_of_mem h
      (List.mem_map_of_mem (List.mem_range.mpr hi))
    by_contra hout
    rw [valueAt, if_neg hout] at hvalue
    cases hvalue
  have hfirst := hread 0 (by omega)
  have hlast := hread ((last - start).toNat - 1) (by omega)
  exact ⟨by omega, hnonempty, by omega, hfits⟩

end Elements

theorem intOrZero_natural (value : Option Nat) :
    intOrZero (value.map fun (n : Nat) => .integer n) = .ok (toInt (value.getD 0)) := by
  cases value <;> rfl

theorem toInt_lt (value : Int) : toInt value < 2 ^ 31 := by
  unfold toInt
  omega

theorem pushed_eq_array_iff {values page : List Json} :
    pushed values = .array page ↔ values = page ∧ page ≠ [] := by
  cases values with
  | nil => simp [pushed]
  | cons value values =>
      simp only [pushed, Json.array.injEq]
      exact ⟨by rintro rfl; exact ⟨rfl, List.cons_ne_nil _ _⟩, And.left⟩

theorem slice_ne_nil {start last : Int} {vars : List Json} (h : Inside start last vars) :
    slice start last vars ≠ [] := by
  have hnonneg := h.nonneg
  have hnonempty := h.nonempty
  have hends := h.ends
  rw [← List.length_pos_iff, slice, List.length_take, List.length_drop]
  omega

/-- The sum of the two ints, or the size of the list. -/
def lastRead (start count : Int) (vars : List Json) : Result Int :=
  if count = 0 then .ok (toInt vars.length) else checkedAdd start count

theorem lastRead_eq_ok_iff {start count last : Int} {vars : List Json} :
    lastRead start count vars = .ok last ↔
      last = lastOf start count vars ∧ (count ≠ 0 → -2 ^ 31 ≤ last ∧ last < 2 ^ 31) := by
  unfold lastRead lastOf
  split_ifs with hcount
  · rw [Except.ok.injEq]
    exact ⟨fun h => ⟨h.symm, fun hne => absurd hcount hne⟩, fun h => h.1.symm⟩
  · rw [checkedAdd_eq_ok_iff]
    exact and_congr_right fun _ => ⟨fun h _ => h, fun h => h hcount⟩

section Pages

variable {message reply : Json} {start count : Option Nat} {vars : List Json}

/-- The part of `variables_request_impl` behind the reading of the list. -/
def pageBetween (start last : Int) (oldVariables reply : Json) : Result Json := do
  let reply ← liftJson (eraseKeyAt [.key (literal "body")] (literal "variables") reply)
  let variablesList ← liftJson ((positions start last).mapM (valueAt oldVariables))
  liftJson (assignAt [.key (literal "body"), .key (literal "variables")]
    (pushed variablesList) reply)

/-- The part before, with the end of the page unless it is that of the list. -/
def pageFrom (start : Int) (reply : Json) (last : Option Int) : Result Json := do
  let (oldVariables, reply) ← liftJson
    (readAt [.key (literal "body"), .key (literal "variables")] reply)
  pageBetween start (last.getD (toInt (size oldVariables))) oldVariables reply

def pageOf (start count : Int) (reply : Json) : Result Json :=
  if start = 0 ∧ count = 0 then .ok reply
  else if count = 0 then pageFrom start reply none
  else (checkedAdd start count).map some >>= pageFrom start reply

theorem pageVariables_eq (message reply : Json) :
    pageVariables message reply =
      constIndex message (literal "arguments") >>= fun arguments =>
        intOrZero (findMember arguments (literal "start")) >>= fun start =>
          intOrZero (findMember arguments (literal "count")) >>= fun count =>
            pageOf start count reply :=
  rfl

theorem pageVariables_of_arguments (hasks : AsksForPage message start count) :
    pageVariables message reply =
      pageOf (toInt (start.getD 0)) (toInt (count.getD 0)) reply := by
  obtain ⟨arguments, harguments, hstart, hcount⟩ := hasks.arguments
  rw [pageVariables_eq, harguments, ok_bind, hstart, intOrZero_natural, ok_bind, hcount,
    intOrZero_natural, ok_bind]

theorem pageBetween_eq (hordered : Ordered reply)
    (hvars : lookupAt variablesPath reply = some (.array vars)) (first last : Int) :
    pageBetween first last (.array vars) reply =
      liftJson ((positions first last).mapM (valueAt (.array vars))) >>=
        fun values => .ok (replaceAt variablesPath (pushed values) reply) := by
  obtain ⟨reply', herase, hassign⟩ := @assignAt_eraseKeyAt [.key (literal "body")] reply
    (.array vars) (literal "variables") hordered hvars
  have hassigned : ∀ value, assignAt [.key (literal "body"), .key (literal "variables")] value
      reply' = .ok (replaceAt variablesPath value reply) := hassign
  rw [pageBetween, herase, liftJson_ok, ok_bind]
  simp only [hassigned, liftJson_ok]

theorem pageFrom_eq (hordered : Ordered reply)
    (hvars : lookupAt variablesPath reply = some (.array vars)) (first : Int)
    (last : Option Int) :
    pageFrom first reply last =
      pageBetween first (last.getD (toInt vars.length)) (.array vars) reply := by
  have hread : readAt [.key (literal "body"), .key (literal "variables")] reply =
      .ok (.array vars, reply) := readAt_of_lookupAt hordered hvars
  rw [pageFrom, hread]
  rfl

theorem pageOf_eq (hordered : Ordered reply)
    (hvars : lookupAt variablesPath reply = some (.array vars)) (first number : Int) :
    pageOf first number reply =
      if first = 0 ∧ number = 0 then .ok reply
      else lastRead first number vars >>= fun last =>
        liftJson ((positions first last).mapM (valueAt (.array vars))) >>=
          fun values => .ok (replaceAt variablesPath (pushed values) reply) := by
  unfold pageOf lastRead
  by_cases hzero : first = 0 ∧ number = 0
  · rw [if_pos hzero, if_pos hzero]
  · rw [if_neg hzero, if_neg hzero]
    by_cases hnumber : number = 0
    · rw [if_pos hnumber, if_pos hnumber, ok_bind, pageFrom_eq hordered hvars, Option.getD_none,
        pageBetween_eq hordered hvars]
    · rw [if_neg hnumber, if_neg hnumber]
      cases checkedAdd first number with
      | error e => rfl
      | ok last =>
          rw [Except.map, ok_bind, ok_bind, pageFrom_eq hordered hvars, Option.getD_some,
            pageBetween_eq hordered hvars]

theorem pageVariables_iff (hasks : AsksForPage message start count) (hordered : Ordered reply)
    (hvars : lookupAt variablesPath reply = some (.array vars)) :
    pageVariables message reply = .ok (replaceAt variablesPath
        (.array (window (start.getD 0) (count.getD 0) vars)) reply) ↔
      Pages (start.getD 0) (count.getD 0) vars := by
  rw [pageVariables_of_arguments hasks, pageOf_eq hordered hvars, pages_iff]
  generalize window (start.getD 0) (count.getD 0) vars = page
  generalize toInt (start.getD 0) = first
  generalize toInt (count.getD 0) = number
  split_ifs with hzero
  · have hsame := @replaceAt_inj variablesPath reply (.array vars) hvars (.array vars) (.array page)
    rw [replaceAt_of_lookupAt hordered hvars] at hsame
    rw [Except.ok.injEq, hsame, Json.array.injEq, eq_comm]
  · constructor
    · intro h
      obtain ⟨last, hlast, h⟩ := bind_eq_ok.mp h
      obtain ⟨values, hvalues, h⟩ := bind_eq_ok.mp h
      rw [Except.ok.injEq, replaceAt_inj hvars, pushed_eq_array_iff] at h
      obtain ⟨rfl, hnil⟩ := h
      obtain ⟨rfl, hfits⟩ := lastRead_eq_ok_iff.mp hlast
      have hread := liftJson_eq_ok.mp hvalues
      have hnonempty : first < lastOf first number vars := by
        by_contra hle
        have hnone : (lastOf first number vars - first).toNat = 0 := by omega
        rw [positions, hnone] at hread
        exact hnil (Except.ok.inj hread).symm
      have hlt : lastOf first number vars < 2 ^ 31 := by
        by_cases hnumber : number = 0
        · rw [lastOf, if_pos hnumber]
          exact toInt_lt _
        · exact (hfits hnumber).2
      have hinside := inside_of_mapM_valueAt hnonempty hlt hread
      rw [mapM_valueAt_of_inside hinside] at hread
      exact ⟨hinside, (Except.ok.inj hread).symm⟩
    · rintro ⟨hinside, rfl⟩
      have hlast : lastRead first number vars = .ok (lastOf first number vars) := by
        have hnonneg := hinside.nonneg
        have hnonempty := hinside.nonempty
        have hfits := hinside.fits
        exact lastRead_eq_ok_iff.mpr ⟨rfl, fun _ => ⟨by omega, hfits⟩⟩
      rw [hlast, ok_bind, mapM_valueAt_of_inside hinside, liftJson_ok, ok_bind, Except.ok.injEq,
        replaceAt_inj hvars, pushed_eq_array_iff]
      exact ⟨rfl, slice_ne_nil hinside⟩

end Pages

/-- For numbers in the range of an int. -/
theorem pages_iff_of_lt {start count : Nat} {vars : List Json} (hstart : start < 2 ^ 31)
    (hcount : count < 2 ^ 31) (hlength : vars.length < 2 ^ 31) :
    Pages start count vars ↔
      start = 0 ∧ count = 0 ∨ start < vars.length ∧ start + count ≤ vars.length := by
  rw [pages_iff, toInt_natCast hstart, toInt_natCast hcount, lastOf, toInt_natCast hlength]
  by_cases hzero : start = 0 ∧ count = 0
  · obtain ⟨rfl, rfl⟩ := hzero
    simp [window]
  · have hints : ¬ ((start : Int) = 0 ∧ (count : Int) = 0) := by omega
    rw [if_neg hints, or_iff_right hzero]
    by_cases hnone : count = 0
    · subst hnone
      rw [Int.natCast_zero, if_pos rfl]
      constructor
      · rintro ⟨hinside, -⟩
        have hnonempty := hinside.nonempty
        omega
      · rintro ⟨hlt, -⟩
        refine ⟨⟨by omega, by omega, le_rfl, by omega⟩, ?_⟩
        have hall : ((vars.length : Int) - start).toNat = (vars.drop start).length := by
          rw [List.length_drop]
          omega
        rw [window, if_neg (Nat.lt_irrefl 0), slice, hall, Int.toNat_natCast, List.take_length]
    · have hsome : (count : Int) ≠ 0 := by omega
      rw [if_neg hsome]
      constructor
      · rintro ⟨hinside, -⟩
        have hends := hinside.ends
        omega
      · rintro ⟨hlt, hsum⟩
        refine ⟨⟨by omega, by omega, by omega, by omega⟩, ?_⟩
        have hwidth : ((start : Int) + count - start).toNat = count := by omega
        rw [window, if_pos (Nat.pos_of_ne_zero hnone), slice, hwidth, Int.toNat_natCast]

/-- The page is returned when it is not empty and ends inside the list. -/
theorem variablesRequest_iff (config : Debugger.Config) (hjson : ParsesOrdered config.json)
    (request : Request) (start count : Option Nat)
    (hasks : AsksForPage request.message start count) (reply : Json)
    (hreply : DapFraming.forwardMessage config.json request.sendRecvRequest request.message =
      .ok reply) (vars : List Json)
    (hvars : lookupAt variablesPath reply = some (.array vars)) (s : XDebugger) :
    (exec (variablesRequest config request) s).1 = .ok (replaceAt variablesPath
        (.array (window (start.getD 0) (count.getD 0) vars)) reply) ↔
      Pages (start.getD 0) (count.getD 0) vars := by
  have hordered := ordered_of_forwarded hjson hreply
  rw [← pageVariables_iff hasks hordered hvars, variablesRequest, exec_forwardMessage_bind, hreply,
    ok_bind]

def variableNamed (name : String) : Json :=
  .object [(literal "name", .string (literal name))]

/-- Three variables. -/
def threeVariables : List Json :=
  [variableNamed "a", variableNamed "b", variableNamed "c"]

def variablesReply : Json :=
  .object [(literal "body", .object [(literal "variables", .array threeVariables)]),
    (literal "success", .boolean true)]

def pagingConfig : Debugger.Config where
  json := tabledJsonLibrary [variablesReply]
  debuggerInfo := ⟨3339675911, literal "/tmp/", literal ".cpp", false, [], true⟩
  cellTemporaryFile code := literal "/tmp/" ++ code

def pagingRequest (start count : Nat) : Request where
  header := .object []
  message := .object
    [(literal "arguments", .object
        [(literal "count", .integer count), (literal "start", .integer start)]),
      (literal "command", .string (literal "variables"))]
  start := .ok true
  sendRecvHeader := .ok (literal "ACK")
  sendRecvRequest _ := .ok (textOf variablesReply)
  openFile _ := none

theorem pagingConfig_parsesOrdered : ParsesOrdered pagingConfig.json := by
  apply tabledJsonLibrary_parsesOrdered
  have hname : ∀ name, Ordered (variableNamed name) := by
    intro name
    have hsorted : SortedKeys [(literal "name", Json.string (literal name))] :=
      List.pairwise_singleton _ _
    simp [variableNamed, hsorted]
  have hbody : SortedKeys [(literal "variables", Json.array threeVariables)] :=
    List.pairwise_singleton _ _
  have hreply : SortedKeys [(literal "body", Json.object
      [(literal "variables", .array threeVariables)]), (literal "success", .boolean true)] :=
    sortedKeys_pair (by decide)
  have hvars : ∀ value ∈ threeVariables, Ordered value := by simp [threeVariables, hname]
  simpa [variablesReply, hbody, hreply] using hvars

theorem pagingRequest_forwarded (start count : Nat) :
    DapFraming.forwardMessage pagingConfig.json (pagingRequest start count).sendRecvRequest
      (pagingRequest start count).message = .ok variablesReply := by
  change liftJson (pagingConfig.json.parse (textOf variablesReply)) = _
  rw [pagingConfig, parse_textOf]
  rfl

theorem pagingRequest_asksForPage (start count : Nat) :
    AsksForPage (pagingRequest start count).message (some start) (some count) :=
  ⟨_, rfl, rfl, rfl⟩

theorem pages_threeVariables_iff {start count : Nat} (hstart : start < 2 ^ 31)
    (hcount : count < 2 ^ 31) :
    Pages start count threeVariables ↔ start = 0 ∧ count = 0 ∨ start < 3 ∧ start + count ≤ 3 := by
  have hlength : threeVariables.length = 3 := rfl
  rw [pages_iff_of_lt hstart hcount (by omega), hlength]

theorem variablesRequest_secondPage :
    (exec (variablesRequest pagingConfig (pagingRequest 1 2)) .init).1 =
      .ok (replaceAt variablesPath (.array (window 1 2 threeVariables)) variablesReply) := by
  have hpages : Pages 1 2 threeVariables := by
    rw [pages_threeVariables_iff (by omega) (by omega)]
    omega
  exact (variablesRequest_iff pagingConfig pagingConfig_parsesOrdered (pagingRequest 1 2) (some 1)
    (some 2) (pagingRequest_asksForPage 1 2) variablesReply (pagingRequest_forwarded 1 2)
    threeVariables rfl .init).mpr hpages

/-- The last page is shorter than the count. -/
theorem variablesRequest_lastPage :
    (exec (variablesRequest pagingConfig (pagingRequest 2 2)) .init).1 ≠
      .ok (replaceAt variablesPath (.array (window 2 2 threeVariables)) variablesReply) := by
  have hordered := ordered_of_forwarded pagingConfig_parsesOrdered (pagingRequest_forwarded 2 2)
  have hpages := @pageVariables_iff (pagingRequest 2 2).message variablesReply (some 2) (some 2)
    threeVariables (pagingRequest_asksForPage 2 2) hordered rfl
  rw [variablesRequest, exec_forwardMessage_bind, pagingRequest_forwarded, ok_bind]
  intro h
  have hinside : Pages 2 2 threeVariables := hpages.mp h
  rw [pages_threeVariables_iff (by omega) (by omega)] at hinside
  omega

end XeusZmq.VariablePaging
