import Noxis.Privacy.Poseidon2

namespace Noxis.Privacy

open Foundation

/-!
# Parameter tables and evaluation

The parameters of the permutation are tables of numbers.  A state is evaluated
as the list of its lanes, where every list that a round needs is built once,
and evaluation agrees with the functions on states.
-/

/-- The state with the given lanes. -/
def ofLanes {count : Nat} (lanes : List Nat) : Fin count -> Val :=
  fun lane => (lanes.getD lane.val 0 : Val)

/-- The tables of a candidate.  The internal matrix adds a diagonal to the
matrix of ones. -/
structure ParameterTables where
  externalRows : List (List Nat)
  internalDiagonal : List Nat
  roundConstantRows : List (List Nat)
  noteIv : Poseidon2P24NoteDomain -> List Nat
  treeIv : Poseidon2P24TreeDomain -> List Nat
  fullRows : forall row, row < 24 -> (externalRows.getD row []).length = 24
  fullDiagonal : internalDiagonal.length = 24
  fullConstants : forall round, round ∈ List.range' 0 4 ++ List.range' 25 4 ->
    (roundConstantRows.getD round []).length = 24

namespace ParameterTables

variable (tables : ParameterTables)

def reference : Poseidon2P24Reference where
  externalMatrix row := ofLanes (tables.externalRows.getD row.val [])
  internalMatrix row column :=
    if row = column then ((tables.internalDiagonal.getD row.val 0 : Nat) : Val) + 1 else 1
  roundConstants round := ofLanes (tables.roundConstantRows.getD round [])

def candidate : Poseidon2P24Candidate where
  reference := tables.reference
  noteIv domain := ofLanes (tables.noteIv domain)
  treeIv domain := ofLanes (tables.treeIv domain)

def dot : List Nat -> List Nat -> Nat
  | first :: restLeft, second :: restRight => first * second + dot restLeft restRight
  | _, _ => 0

/-- Evaluate a number before going on with it. -/
def withNumber {α : Type} (value : Nat) (rest : Nat -> α) : α :=
  match value with
  | 0 => rest 0
  | lower + 1 => rest (lower + 1)

/-- Combine the entries of a table with the lanes of a state.  Missing lanes
count as zeros. -/
def zipTable (combine : Nat -> Nat -> Nat) : List Nat -> List Nat -> List Nat
  | [], _ => []
  | entry :: entries, [] =>
    withNumber (combine entry 0) (fun value => value :: zipTable combine entries [])
  | entry :: entries, lane :: lanes =>
    withNumber (combine entry lane) (fun value => value :: zipTable combine entries lanes)

def mulRows (state : List Nat) : List (List Nat) -> List Nat
  | [] => []
  | row :: rows =>
    withNumber (dot row state % babyBearModulus) (fun value => value :: mulRows state rows)

def addLists : List Nat -> List Nat -> List Nat
  | [], lanes => lanes
  | entries, [] => entries
  | entry :: entries, lane :: lanes => (lane + entry) :: addLists entries lanes

def evalExternal (state : List Nat) : List Nat := mulRows state tables.externalRows

def evalInternal (state : List Nat) : List Nat :=
  withNumber (dot (List.replicate 24 1) state) (fun total =>
    zipTable (fun entry lane => (total + entry * lane) % babyBearModulus) tables.internalDiagonal
      state)

def evalFullRound (state : List Nat) (round : Nat) : List Nat :=
  tables.evalExternal (zipTable (fun constant lane => (lane + constant) ^ 7 % babyBearModulus)
    (tables.roundConstantRows.getD round []) state)

def evalPartialRound (state : List Nat) (round : Nat) : List Nat :=
  withNumber ((state.getD 0 0 + (tables.roundConstantRows.getD round []).getD 0 0) ^ 7 %
    babyBearModulus) (fun first => tables.evalInternal (first :: state.tail))

def evalPermutation (input : List Nat) : List Nat :=
  let opened := (List.range' 0 4).foldl tables.evalFullRound (tables.evalExternal input)
  let mixed := (List.range' 4 21).foldl tables.evalPartialRound opened
  (List.range' 25 4).foldl tables.evalFullRound mixed

def evalAbsorb (elements : List Nat) (state : List Nat) : Nat -> List Nat
  | 0 => state
  | count + 1 => tables.evalPermutation
      (addLists ((elements.drop (count * 15)).take 15) (evalAbsorb elements state count))

def evalDigest (iv elements : List Nat) (blocks : Nat) : List Nat :=
  let state := tables.evalAbsorb elements (List.replicate 15 0 ++ iv) blocks
  let last := (tables.evalPermutation state).getD 0 0
  (List.range 16).map (fun lane => if lane < 15 then state.getD lane 0 else last)

variable (value : Nat)

theorem withNumber_eq {α : Type} (rest : Nat -> α) : withNumber value rest = rest value := by
  cases value with
  | zero => rfl
  | succ lower => rfl

theorem cast_mod : ((value % babyBearModulus : Nat) : Val) = (value : Val) :=
  ZMod.natCast_mod value babyBearModulus

theorem ofLanes_map_range (count : Nat) (lane : Nat -> Nat) :
    (ofLanes ((List.range count).map lane) : Fin count -> Val) =
      fun index => (lane index.val : Val) := by
  funext index
  unfold ofLanes
  rw [List.getD_eq_getElem _ _ (by simp), List.getElem_map, List.getElem_range]

theorem getD_zipTable (combine : Nat -> Nat -> Nat) {table : List Nat} (state : List Nat)
    {lane : Nat} (within : lane < table.length) :
    (zipTable combine table state).getD lane 0 =
      combine (table.getD lane 0) (state.getD lane 0) := by
  induction table generalizing state lane with
  | nil => exact absurd within (Nat.not_lt_zero lane)
  | cons entry entries ih =>
    cases state with
    | nil =>
      rw [zipTable, withNumber_eq]
      cases lane with
      | zero => rfl
      | succ lane =>
        rw [List.getD_cons_succ, ih [] (Nat.lt_of_succ_lt_succ within)]
        rfl
    | cons first rest =>
      rw [zipTable, withNumber_eq]
      cases lane with
      | zero => rfl
      | succ lane =>
        rw [List.getD_cons_succ, ih rest (Nat.lt_of_succ_lt_succ within)]
        rfl

variable (state : List Nat)

theorem getD_mulRows (rows : List (List Nat)) (lane : Nat) :
    (mulRows state rows).getD lane 0 = dot (rows.getD lane []) state % babyBearModulus := by
  induction rows generalizing lane with
  | nil => rfl
  | cons row rows ih =>
    rw [mulRows, withNumber_eq]
    cases lane with
    | zero => rfl
    | succ lane => rw [List.getD_cons_succ, List.getD_cons_succ, ih]

theorem getD_addLists (entries lanes : List Nat) (lane : Nat) :
    (addLists entries lanes).getD lane 0 = lanes.getD lane 0 + entries.getD lane 0 := by
  induction entries, lanes using addLists.induct generalizing lane with
  | case1 lanes => simp [addLists]
  | case2 entries nonempty => simp [addLists]
  | case3 entry entries first lanes ih =>
    rw [addLists]
    cases lane with
    | zero => rfl
    | succ lane => exact ih lane

theorem dot_eq_sum (left right : List Nat) :
    ((dot left right : Nat) : Val) = ∑ index ∈ Finset.range left.length,
      (left.getD index 0 : Val) * (right.getD index 0 : Val) := by
  induction left generalizing right with
  | nil => simp [dot]
  | cons first restLeft ih =>
    cases right with
    | nil => simp [dot]
    | cons second restRight =>
      rw [dot, Nat.cast_add, Nat.cast_mul, ih, List.length_cons, Finset.sum_range_succ', add_comm]
      simp

theorem dot_eq_sum_lanes {left : List Nat} (full : left.length = 24) (right : List Nat) :
    ((dot left right : Nat) : Val) =
      ∑ column : Fin 24, (ofLanes left : State) column * (ofLanes right : State) column := by
  rw [dot_eq_sum, full, Finset.sum_range]
  rfl

theorem ofLanes_evalExternal :
    (ofLanes (tables.evalExternal state) : State) =
      matmul tables.reference.externalMatrix (ofLanes state) := by
  funext row
  unfold ofLanes evalExternal
  rw [getD_mulRows, cast_mod, dot_eq_sum_lanes (tables.fullRows row.val row.isLt)]
  rfl

theorem ofLanes_evalInternal :
    (ofLanes (tables.evalInternal state) : State) =
      matmul tables.reference.internalMatrix (ofLanes state) := by
  funext row
  have ones (column : Fin 24) : (ofLanes (List.replicate 24 1) : State) column = 1 := by
    unfold ofLanes
    rw [List.getD_eq_getElem _ _ (by simp), List.getElem_replicate, Nat.cast_one]
  have entry (column : Fin 24) : tables.reference.internalMatrix row column =
      1 + (if row = column then ((tables.internalDiagonal.getD row.val 0 : Nat) : Val) else 0) := by
    by_cases same : row = column
    · simp [reference, same, add_comm]
    · simp [reference, same]
  have value : (ofLanes (tables.evalInternal state) : State) row =
      ((dot (List.replicate 24 1) state +
        tables.internalDiagonal.getD row.val 0 * state.getD row.val 0 : Nat) : Val) := by
    unfold ofLanes evalInternal
    rw [withNumber_eq, getD_zipTable _ _ (by rw [tables.fullDiagonal]; exact row.isLt), cast_mod]
  rw [value, Nat.cast_add, Nat.cast_mul, dot_eq_sum_lanes (by simp), matmul]
  simp only [ones, entry, add_mul, one_mul, ite_mul, zero_mul, Finset.sum_add_distrib,
    Finset.sum_ite_eq, Finset.mem_univ, if_true]
  rfl

theorem sboxSeven_eq_pow (value : Val) : sboxSeven value = value ^ 7 := by
  unfold sboxSeven
  ring

theorem ofLanes_evalFullRound {round : Nat}
    (isFull : (tables.roundConstantRows.getD round []).length = 24) :
    (ofLanes (tables.evalFullRound state round) : State) =
      tables.reference.fullRound (ofLanes state) round := by
  rw [evalFullRound, ofLanes_evalExternal, Poseidon2P24Reference.fullRound]
  congr 1
  funext lane
  rw [applySboxToAll, sboxSeven_eq_pow]
  unfold ofLanes
  rw [getD_zipTable _ _ (by rw [isFull]; exact lane.isLt), cast_mod, Nat.cast_pow, Nat.cast_add]
  rfl

theorem ofLanes_evalPartialRound (round : Nat) :
    (ofLanes (tables.evalPartialRound state round) : State) =
      tables.reference.partialRound (ofLanes state) round := by
  rw [evalPartialRound, withNumber_eq, ofLanes_evalInternal, Poseidon2P24Reference.partialRound]
  congr 1
  funext lane
  by_cases isFirst : lane = 0
  · subst isFirst
    rw [Function.update_self, sboxSeven_eq_pow]
    exact (cast_mod _).trans (by rw [Nat.cast_pow, Nat.cast_add]; rfl)
  have later : lane.val ≠ 0 := fun isZero => isFirst (Fin.ext isZero)
  rcases Nat.exists_eq_succ_of_ne_zero later with ⟨earlier, isLater⟩
  rw [Function.update_of_ne isFirst]
  unfold ofLanes
  rw [isLater, List.getD_cons_succ]
  simp [List.getD_eq_getElem?_getD]

theorem ofLanes_evalPermutation (input : List Nat) :
    (ofLanes (tables.evalPermutation input) : State) =
      tables.reference.permutation (ofLanes input) := by
  have full {rounds : List Nat} (state : List Nat) (areFull : forall round, round ∈ rounds ->
      (tables.roundConstantRows.getD round []).length = 24) :
      (ofLanes (rounds.foldl tables.evalFullRound state) : State) =
        rounds.foldl tables.reference.fullRound (ofLanes state) := by
    induction rounds generalizing state with
    | nil => rfl
    | cons round rounds ih =>
      rw [List.foldl_cons, List.foldl_cons,
        ih _ (fun other member => areFull other (List.mem_cons_of_mem _ member)),
        tables.ofLanes_evalFullRound state (areFull round List.mem_cons_self)]
  have inner (rounds : List Nat) (state : List Nat) :
      (ofLanes (rounds.foldl tables.evalPartialRound state) : State) =
        rounds.foldl tables.reference.partialRound (ofLanes state) := by
    refine (List.foldl_hom _ ?_).symm
    intro state round
    exact (tables.ofLanes_evalPartialRound state round).symm
  simp only [evalPermutation, Poseidon2P24Reference.permutation]
  rw [full _ (fun round member => tables.fullConstants round (List.mem_append_right _ member)), inner,
    full _ (fun round member => tables.fullConstants round (List.mem_append_left _ member)),
    ofLanes_evalExternal]

theorem ofLanes_evalAbsorb (elements state : List Nat) (count : Nat) :
    (ofLanes (tables.evalAbsorb elements state count) : State) =
      absorbBlocks tables.reference.permutation 15 (fun index => (elements.getD index 0 : Val))
        (ofLanes state) count := by
  induction count with
  | zero => rfl
  | succ count ih =>
    rw [evalAbsorb, ofLanes_evalPermutation, absorbBlocks, ← ih]
    congr 1
    funext lane
    unfold addBlock ofLanes
    rw [getD_addLists, Nat.cast_add]
    simp only [List.getD_eq_getElem?_getD, List.getElem?_take, List.getElem?_drop]
    by_cases inRate : lane.val < 15
    · rw [if_pos inRate, if_pos inRate]
    · rw [if_neg inRate, if_neg inRate, Option.getD_none, Nat.cast_zero, add_zero]

variable (iv : List Nat)

theorem ofLanes_raw :
    (ofLanes (List.replicate 15 0 ++ iv) : State) = rawState (ofLanes iv) (fun _ => 0) := by
  funext lane
  unfold rawState ofLanes
  by_cases inRate : lane.val < 15
  · rw [dif_pos inRate, List.getD_append _ _ _ _ (by simpa using inRate),
      List.getD_eq_getElem _ _ (by simpa using inRate), List.getElem_replicate, Nat.cast_zero]
  · rw [dif_neg inRate, List.getD_append_right _ _ _ _ (by simpa using inRate),
      List.length_replicate]

theorem digestOf_eq_evalDigest (bytes : List UInt8) (blocks : Nat) :
    digestOf tables.reference (ofLanes iv) (packedElement bytes) blocks =
      ofLanes (tables.evalDigest iv (bytePack3le bytes) blocks) := by
  have elements : packedElement bytes =
      fun index => (((bytePack3le bytes).getD index 0 : Nat) : Val) := by
    funext index
    rw [getD_bytePack3le, packedElement]
  have absorbed := tables.ofLanes_evalAbsorb (bytePack3le bytes) (List.replicate 15 0 ++ iv) blocks
  rw [ofLanes_raw] at absorbed
  symm
  rw [digestOf, eq_squeeze_iff, elements, ← absorbed, ← ofLanes_evalPermutation, evalDigest,
    ofLanes_map_range]
  refine ⟨?_, ?_⟩
  · intro lane
    exact congrArg Nat.cast (if_pos lane.isLt)
  · exact congrArg Nat.cast (if_neg (Nat.lt_irrefl 15))

theorem hashBytes_eq_evalDigest (domain : Poseidon2P24NoteDomain) (bytes : List UInt8) :
    tables.candidate.hashBytes domain bytes =
      ofLanes (tables.evalDigest (tables.noteIv domain) (bytePack3le bytes)
        (((bytes.length + 2) / 3 + 14) / 15)) := by
  rw [Poseidon2P24Candidate.hashBytes_eq]
  exact tables.digestOf_eq_evalDigest (tables.noteIv domain) bytes _

end ParameterTables

/-! ## The tables of the candidate -/

/-- The external matrix. -/
def candidateExternalRows : List (List Nat) := [
    [10, 14, 2, 6, 5, 7, 1, 3, 5, 7, 1, 3, 5, 7, 1, 3, 5, 7, 1, 3, 5, 7, 1, 3],
    [8, 12, 2, 2, 4, 6, 1, 1, 4, 6, 1, 1, 4, 6, 1, 1, 4, 6, 1, 1, 4, 6, 1, 1],
    [2, 6, 10, 14, 1, 3, 5, 7, 1, 3, 5, 7, 1, 3, 5, 7, 1, 3, 5, 7, 1, 3, 5, 7],
    [2, 2, 8, 12, 1, 1, 4, 6, 1, 1, 4, 6, 1, 1, 4, 6, 1, 1, 4, 6, 1, 1, 4, 6],
    [5, 7, 1, 3, 10, 14, 2, 6, 5, 7, 1, 3, 5, 7, 1, 3, 5, 7, 1, 3, 5, 7, 1, 3],
    [4, 6, 1, 1, 8, 12, 2, 2, 4, 6, 1, 1, 4, 6, 1, 1, 4, 6, 1, 1, 4, 6, 1, 1],
    [1, 3, 5, 7, 2, 6, 10, 14, 1, 3, 5, 7, 1, 3, 5, 7, 1, 3, 5, 7, 1, 3, 5, 7],
    [1, 1, 4, 6, 2, 2, 8, 12, 1, 1, 4, 6, 1, 1, 4, 6, 1, 1, 4, 6, 1, 1, 4, 6],
    [5, 7, 1, 3, 5, 7, 1, 3, 10, 14, 2, 6, 5, 7, 1, 3, 5, 7, 1, 3, 5, 7, 1, 3],
    [4, 6, 1, 1, 4, 6, 1, 1, 8, 12, 2, 2, 4, 6, 1, 1, 4, 6, 1, 1, 4, 6, 1, 1],
    [1, 3, 5, 7, 1, 3, 5, 7, 2, 6, 10, 14, 1, 3, 5, 7, 1, 3, 5, 7, 1, 3, 5, 7],
    [1, 1, 4, 6, 1, 1, 4, 6, 2, 2, 8, 12, 1, 1, 4, 6, 1, 1, 4, 6, 1, 1, 4, 6],
    [5, 7, 1, 3, 5, 7, 1, 3, 5, 7, 1, 3, 10, 14, 2, 6, 5, 7, 1, 3, 5, 7, 1, 3],
    [4, 6, 1, 1, 4, 6, 1, 1, 4, 6, 1, 1, 8, 12, 2, 2, 4, 6, 1, 1, 4, 6, 1, 1],
    [1, 3, 5, 7, 1, 3, 5, 7, 1, 3, 5, 7, 2, 6, 10, 14, 1, 3, 5, 7, 1, 3, 5, 7],
    [1, 1, 4, 6, 1, 1, 4, 6, 1, 1, 4, 6, 2, 2, 8, 12, 1, 1, 4, 6, 1, 1, 4, 6],
    [5, 7, 1, 3, 5, 7, 1, 3, 5, 7, 1, 3, 5, 7, 1, 3, 10, 14, 2, 6, 5, 7, 1, 3],
    [4, 6, 1, 1, 4, 6, 1, 1, 4, 6, 1, 1, 4, 6, 1, 1, 8, 12, 2, 2, 4, 6, 1, 1],
    [1, 3, 5, 7, 1, 3, 5, 7, 1, 3, 5, 7, 1, 3, 5, 7, 2, 6, 10, 14, 1, 3, 5, 7],
    [1, 1, 4, 6, 1, 1, 4, 6, 1, 1, 4, 6, 1, 1, 4, 6, 2, 2, 8, 12, 1, 1, 4, 6],
    [5, 7, 1, 3, 5, 7, 1, 3, 5, 7, 1, 3, 5, 7, 1, 3, 5, 7, 1, 3, 10, 14, 2, 6],
    [4, 6, 1, 1, 4, 6, 1, 1, 4, 6, 1, 1, 4, 6, 1, 1, 4, 6, 1, 1, 8, 12, 2, 2],
    [1, 3, 5, 7, 1, 3, 5, 7, 1, 3, 5, 7, 1, 3, 5, 7, 1, 3, 5, 7, 2, 6, 10, 14],
    [1, 1, 4, 6, 1, 1, 4, 6, 1, 1, 4, 6, 1, 1, 4, 6, 1, 1, 4, 6, 2, 2, 8, 12]]

/-- The diagonal of the internal matrix. -/
def candidateDiagonal : List Nat :=
    [1083257840, 375892129, 111593398, 1867716110, 658182609, 51866717, 1928969209, 1942928017,
      1558116381, 20525701, 1188752902, 106789798, 1389833583, 98371040, 1001081699,
      1792686146, 801504236, 1997365680, 1461037801, 65998480, 1974912880, 606789471, 13683276,
      918610824]

/-- The round constants.  A partial round has a constant on the first lane only. -/
def candidateRoundConstantRows : List (List Nat) := [
    [262278199, 127253399, 314968988, 246143118, 157582794, 118043943, 454905424, 815798990,
      1004040026, 1773108264, 1066694495, 1930780904, 1180307149, 1464793095, 1660766320,
      1389166148, 343354132, 1307439985, 638242172, 525458520, 1964135730, 1751797115,
      1421525369, 831813382],
    [695835963, 1845603984, 540703332, 1333667262, 1917861751, 1170029417, 1989924532,
      1518763784, 1339793538, 622609176, 686842369, 1737016378, 1282239129, 897025192,
      716894289, 1997503974, 395622276, 1201063290, 1917549072, 1150912935, 1687379185,
      1507936940, 241306552, 989176635],
    [1147522062, 27129487, 1257820264, 142102402, 217046702, 1664590951, 855276054, 1215259350,
      946500736, 552696906, 1424297384, 538103555, 1608853840, 162510541, 623051854,
      1549062383, 1908416316, 1622328571, 1079030649, 1584033957, 1099252725, 1910423126,
      447555988, 862495875],
    [128479034, 1587822577, 608401422, 1290028279, 342857858, 825405577, 427731030, 1718628547,
      588764636, 204228775, 1454563174, 1740472809, 1338899225, 1269493554, 53007114,
      1647670797, 306391314, 172614232, 51256176, 1221257987, 1239734761, 273790406,
      1781980094, 1291790245],
    [497520322],
    [1930103076],
    [1052077299],
    [1540960371],
    [924863639],
    [1365519753],
    [1726563304],
    [440300254],
    [1891545577],
    [822033215],
    [1111544260],
    [308575117],
    [1708681573],
    [1240419708],
    [1199068823],
    [1186174623],
    [1551596046],
    [1886977120],
    [1327682690],
    [1210751726],
    [1810596765],
    [53041581, 723038058, 1439947916, 1136469704, 205609311, 1883820770, 14387587, 720724951,
      1854174607, 1629316321, 530151394, 1679178250, 1549779579, 48375137, 976057819,
      463976218, 875839332, 1946596189, 434078361, 1878280202, 1363837384, 1470845646,
      1792450386, 1040977421],
    [1209164052, 714957516, 390340387, 1213686459, 790726260, 117294666, 140621810, 993455846,
      1889603648, 78845751, 925018226, 708123747, 1647665372, 1649953458, 942439428,
      1006235079, 238616145, 930036496, 1401020792, 989618631, 1545325389, 1715719711,
      755691969, 150307788],
    [1567618575, 1663353317, 1950429111, 1891637550, 192082241, 1080533265, 1463323727,
      890243564, 158646617, 1402624179, 59510015, 1198261138, 1065075039, 1150410028,
      1293938517, 76770019, 1478577620, 1748789933, 457372011, 1841795381, 760115692,
      1042892522, 1507649755, 1827572010],
    [1206940496, 1896271507, 1003792297, 738091882, 1124078057, 1889898, 813674331, 228520958,
      1832911930, 781141772, 459826664, 202271745, 1296144415, 1111203133, 1090783436,
      641665156, 1393671120, 1303271640, 809508074, 162506101, 1262312258, 1672219447,
      1608891156, 1380248020]]

/-- The tables that the repository ships. -/
def candidateTables : ParameterTables where
  externalRows := candidateExternalRows
  internalDiagonal := candidateDiagonal
  roundConstantRows := candidateRoundConstantRows
  noteIv
    | .addr =>
      [1853478823, 529778630, 506741799, 1608476876, 816368906, 1273220496, 1218690866,
        1576195064, 1858227912]
    | .note =>
      [1926189073, 1208975911, 242297839, 635783994, 1142650684, 892401344, 128332252,
        681128792, 617769955]
    | .nullifier =>
      [1717594402, 638074386, 490092013, 312141919, 1403482202, 1123788004, 243901173,
        1733743138, 1330989840]
  treeIv
    | .leaf =>
      [1715759230, 249999687, 1330481756, 332819014, 858899600, 1629379922, 798936327,
        1891598621, 1138906242]
    | .node =>
      [1083254345, 979775538, 39404930, 747249100, 754301869, 1796627618, 536507185,
        1559761034, 980659263]
    | .emptyBase =>
      [1123440458, 1059224467, 343664718, 1070154018, 1064192615, 460784134, 1802221789,
        29930173, 691548159]
  fullRows := by decide
  fullDiagonal := by decide
  fullConstants := by decide

def loadCandidate : Poseidon2P24Candidate := candidateTables.candidate

end Noxis.Privacy
