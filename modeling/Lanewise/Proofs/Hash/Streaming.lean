import Lanewise.Hash.Mixer
import Lanewise.Word.Lemmas
import Mathlib.Data.List.Basic

namespace Lanewise

namespace Xxh64

theorem Lanes.stripes_of_lt (lanes : Lanes) {bytes : List UInt8} (h : bytes.length < 32) :
    lanes.stripes bytes = (lanes, bytes) := by
  rw [stripes, if_neg (by omega)]

theorem Lanes.stripes_of_le (lanes : Lanes) {bytes : List UInt8} (h : 32 ≤ bytes.length) :
    lanes.stripes bytes = (lanes.stripe bytes).stripes (bytes.drop 32) := by
  rw [stripes, if_pos h]

theorem Lanes.stripe_append (lanes : Lanes) {bytes : List UInt8} (h : 32 ≤ bytes.length)
    (more : List UInt8) : lanes.stripe (bytes ++ more) = lanes.stripe bytes := by
  have hlane (i : Nat) (hi : i + 8 ≤ 32) :
      ((bytes ++ more).drop i).take 8 = (bytes.drop i).take 8 := by
    rw [List.drop_append_of_le_length (by omega), List.take_append_of_le_length]
    rw [List.length_drop]
    omega
  have hfirst := hlane 0 (by decide)
  simp only [List.drop_zero] at hfirst
  rw [stripe, hfirst, hlane 8 (by decide), hlane 16 (by decide), hlane 24 (by decide), stripe]

-- What waits after the first part of an input goes before the second part.
theorem Lanes.stripes_append (lanes : Lanes) (bytes more : List UInt8) :
    lanes.stripes (bytes ++ more) =
      (lanes.stripes bytes).1.stripes ((lanes.stripes bytes).2 ++ more) := by
  fun_induction stripes lanes bytes with
  | case1 lanes bytes hlong ih =>
    have hwhole : 32 ≤ (bytes ++ more).length := by
      rw [List.length_append]
      omega
    rw [lanes.stripes_of_le hwhole, lanes.stripe_append hlong,
      List.drop_append_of_le_length hlong, ih]
  | case2 lanes bytes hshort => rfl

namespace State

-- The state after an input, however it came.
def after (seed : UInt64) (bytes : List UInt8) : State :=
  let (lanes, pending) := (Lanes.ofSeed seed).stripes bytes
  ⟨seed, lanes, pending, bytes.length⟩

theorem after_nil (seed : UInt64) : after seed [] = start seed := by
  rw [after, Lanes.stripes_of_lt _ (by decide)]
  rfl

theorem update_after (seed : UInt64) (bytes more : List UInt8) :
    (after seed bytes).update more = after seed (bytes ++ more) := by
  simp only [after, update, Lanes.stripes_append _ bytes more, List.length_append]

theorem foldl_updateWord_after (seed : UInt64) (bytes : List UInt8) (words : List UInt64) :
    words.foldl updateWord (after seed bytes) =
      after seed (bytes ++ words.flatMap (Word.toBytes 8)) := by
  induction words generalizing bytes with
  | nil => simp
  | cons word words ih =>
    rw [List.foldl_cons, updateWord, update_after, ih, List.flatMap_cons, List.append_assoc]

theorem digest_after (seed : UInt64) (bytes : List UInt8) :
    (after seed bytes).digest = hash seed bytes :=
  rfl

end State

-- A hash in progress over whole words. Three words at most wait for the rest of their stripe, and
-- the fourth one completes it.
structure WordState where
  lanes : Lanes
  waiting : List UInt64
  count : Nat
  deriving DecidableEq, Repr

namespace WordState

def start (seed : UInt64) : WordState :=
  ⟨Lanes.ofSeed seed, [], 0⟩

def push (state : WordState) (word : UInt64) : WordState :=
  match state.waiting with
  | [a, b, c] =>
    ⟨⟨round state.lanes.a a, round state.lanes.b b, round state.lanes.c c,
      round state.lanes.d word⟩, [], state.count + 1⟩
  | waiting => ⟨state.lanes, waiting ++ [word], state.count + 1⟩

-- The words that wait at the end are absorbed one by one.
def digest (seed : UInt64) (state : WordState) : UInt64 :=
  let start := if 4 ≤ state.count then state.lanes.merge else seed + prime5
  avalanche (state.waiting.foldl absorbWord (start + (8 * state.count).toUInt64))

end WordState

theorem length_flatMap_toBytes (words : List UInt64) :
    (words.flatMap (Word.toBytes 8)).length = 8 * words.length := by
  simp [List.length_flatMap, Nat.mul_comm]

theorem take_toBytes_append (word : UInt64) (rest : List UInt8) :
    (Word.toBytes 8 word ++ rest).take 8 = Word.toBytes 8 word :=
  List.take_left' (Word.length_toBytes 8 word)

theorem drop_toBytes_append (word : UInt64) (rest : List UInt8) :
    (Word.toBytes 8 word ++ rest).drop 8 = rest :=
  List.drop_left' (Word.length_toBytes 8 word)

theorem stripe_flatMap_toBytes (lanes : Lanes) (a b c d : UInt64) :
    lanes.stripe ([a, b, c, d].flatMap (Word.toBytes 8)) =
      ⟨round lanes.a a, round lanes.b b, round lanes.c c, round lanes.d d⟩ := by
  have hdrop (i : Nat) (word : UInt64) (rest : List UInt8) :
      (Word.toBytes 8 word ++ rest).drop (8 + i) = rest.drop i := by
    rw [← List.drop_drop, drop_toBytes_append]
  simp only [List.flatMap_cons, List.flatMap_nil, Lanes.stripe]
  rw [hdrop 0, hdrop 8, hdrop 16, hdrop 0, hdrop 8, hdrop 0]
  simp only [List.drop_zero, take_toBytes_append, Word.ofBytes_toBytes]

theorem absorbRest_flatMap_toBytes (hash : UInt64) (words : List UInt64) :
    absorbRest hash (words.flatMap (Word.toBytes 8)) = words.foldl absorbWord hash := by
  induction words generalizing hash with
  | nil => simp [absorbRest]
  | cons word words ih =>
    have hlong : 8 ≤ (Word.toBytes 8 word ++ words.flatMap (Word.toBytes 8)).length := by
      simp
    rw [List.flatMap_cons, absorbRest, if_pos hlong, take_toBytes_append, drop_toBytes_append,
      Word.ofBytes_toBytes, ih, List.foldl_cons]

-- The bytes that wait are those of the words that wait.
structure Follows (state : State) (words : WordState) : Prop where
  lanes_eq : state.lanes = words.lanes
  pending_eq : state.pending = words.waiting.flatMap (Word.toBytes 8)
  length_eq : state.length = 8 * words.count
  waiting_length : words.waiting.length = words.count % 4

namespace Follows

theorem start (seed : UInt64) : Follows (State.start seed) (WordState.start seed) :=
  ⟨rfl, rfl, rfl, rfl⟩

theorem updateWord {state : State} {words : WordState} (h : Follows state words) (word : UInt64) :
    Follows (state.updateWord word) (words.push word) := by
  obtain ⟨lanes, waiting, count⟩ := words
  obtain ⟨hlanes, hpending, hlength, hwaiting⟩ := h
  simp only at hlanes hpending hlength hwaiting
  have hbytes : state.pending ++ Word.toBytes 8 word =
      (waiting ++ [word]).flatMap (Word.toBytes 8) := by
    rw [hpending, List.flatMap_append, List.flatMap_singleton]
  have hcount : state.length + (Word.toBytes 8 word).length = 8 * (count + 1) := by
    rw [hlength, Word.length_toBytes]
    omega
  have hshort : waiting.length < 4 := by omega
  simp only [State.updateWord, State.update, hbytes, hcount, hlanes]
  match waiting, hshort with
  | [], _ | [_], _ | [_, _], _ =>
    rw [Lanes.stripes_of_lt _ (by simp)]
    refine ⟨rfl, rfl, rfl, ?_⟩
    simp only [WordState.push, List.length_append, List.length_cons, List.length_nil] at hwaiting ⊢
    omega
  | [a, b, c], _ =>
    rw [Lanes.stripes_of_le _ (by simp), List.drop_eq_nil_of_le (by simp),
      Lanes.stripes_of_lt _ (by decide)]
    refine ⟨stripe_flatMap_toBytes lanes a b c word, rfl, rfl, ?_⟩
    simp only [WordState.push, List.length_cons, List.length_nil] at hwaiting ⊢
    omega

theorem foldl {state : State} {words : WordState} (h : Follows state words)
    (input : List UInt64) :
    Follows (input.foldl State.updateWord state) (input.foldl WordState.push words) := by
  induction input generalizing state words with
  | nil => exact h
  | cons word input ih => exact ih (h.updateWord word)

theorem digest_eq {state : State} {words : WordState} (h : Follows state words) :
    state.digest = words.digest state.seed := by
  have hstart : 32 ≤ 8 * words.count ↔ 4 ≤ words.count := by omega
  simp only [State.digest, finish, WordState.digest, h.lanes_eq, h.pending_eq, h.length_eq,
    absorbRest_flatMap_toBytes, hstart]

end Follows

theorem WordState.count_push (state : WordState) (word : UInt64) :
    (state.push word).count = state.count + 1 := by
  unfold push
  split <;> rfl

theorem WordState.count_foldl_push (state : WordState) (words : List UInt64) :
    (words.foldl push state).count = state.count + words.length := by
  induction words generalizing state with
  | nil => rfl
  | cons word words ih =>
    rw [List.foldl_cons, ih, count_push, List.length_cons]
    omega

end Xxh64

namespace Hash

theorem absorbAll_xxh64Mixer (state : Xxh64.State) (blocks : List UInt64) :
    Id.run (xxh64Mixer.absorbAll state blocks) = blocks.foldl Xxh64.State.updateWord state := by
  induction blocks generalizing state with
  | nil => rfl
  | cons block blocks ih => exact ih (state.updateWord block)

-- The secret goes in before the first block is asked for, and the length behind the last one.
theorem xxh64_eq_foldl (framed : Framed) :
    xxh64 framed =
      (framed.words.foldl Xxh64.State.updateWord (Xxh64.State.start framed.seed)).digest := by
  let start := framed.secret.words.foldl Xxh64.State.updateWord (Xxh64.State.start framed.seed)
  have hmix : xxh64 framed =
      ((Id.run (xxh64Mixer.absorbAll start framed.blocks)).updateWord framed.length).digest :=
    rfl
  rw [hmix, absorbAll_xxh64Mixer, Framed.words, List.foldl_append, List.foldl_append]
  rfl

theorem Framed.length_words (framed : Framed) : framed.words.length = 4 + framed.blocks.length := by
  simp only [words, Secret.words, List.length_append, List.length_cons, List.length_nil]
  omega

theorem Framed.length_bytes (framed : Framed) :
    framed.bytes.length = 8 * (4 + framed.blocks.length) := by
  rw [bytes, Xxh64.length_flatMap_toBytes, length_words]

-- Mixing word by word gives the hash of the whole framed input in one pass. Both are what a hash
-- over whole words gives: every fourth word completes a stripe, wherever the secret, the blocks and
-- the length fall, and the words that are left over, as many as the count of blocks modulo four,
-- are absorbed at the end.
theorem xxh64_eq_hash_bytes (framed : Framed) :
    let words := framed.words.foldl Xxh64.WordState.push (Xxh64.WordState.start framed.seed)
    xxh64 framed = Xxh64.hash framed.seed framed.bytes ∧
      framed.bytes.length = 8 * (4 + framed.blocks.length) ∧
      xxh64 framed = words.digest framed.seed ∧
      words.waiting.length = framed.blocks.length % 4 := by
  intro words
  have hstate : framed.words.foldl Xxh64.State.updateWord (Xxh64.State.start framed.seed) =
      Xxh64.State.after framed.seed framed.bytes := by
    rw [← Xxh64.State.after_nil, Xxh64.State.foldl_updateWord_after]
    rfl
  have hfollows : Xxh64.Follows (Xxh64.State.after framed.seed framed.bytes) words :=
    hstate ▸ (Xxh64.Follows.start framed.seed).foldl framed.words
  have hcount : words.count = 4 + framed.blocks.length := by
    rw [Xxh64.WordState.count_foldl_push, framed.length_words]
    exact Nat.zero_add _
  refine ⟨?_, framed.length_bytes, ?_, ?_⟩
  · rw [xxh64_eq_foldl, hstate, Xxh64.State.digest_after]
  · rw [xxh64_eq_foldl, hstate, hfollows.digest_eq]
    rfl
  · rw [hfollows.waiting_length, hcount]
    omega

-- The published hash of no input at all.
example : Xxh64.hash 0 [] = 0xEF46DB3751D8E999 := by cbv

end Hash

end Lanewise
