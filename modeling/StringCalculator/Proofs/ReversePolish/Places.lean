import StringCalculator.Calculation
import StringCalculator.Proofs.ReversePolish.Adjacency

/-!
# `StringCalculator.Proofs.ReversePolish.Places` — where the tokens of an order come from

The order of tokens is found whether or not they are an expression, so it is told here without trees. A
token of the order is one of the given tokens, and two equal tokens are told apart by the places where
they stood. Put that way the order says: no token is lost or taken twice, operands keep their order, and
what stands inside a pair of parentheses comes before every operator behind it.

None of this depends on which waiting operators an operator releases. So the way of the tokens is told by
rules that leave the choice open (`Moves`), with each token carrying its place along, and the order is one
result of these rules.

## Contents
- **`Group`**: an opening parenthesis and the closing one that belongs to it.
- **`Rearranges`**: the places that an order takes its tokens from.
- **`Moves`**, **`exists_moves_of_arrange`**: the way of the tokens, and the order as a result of it.
- **`Moves.perm`**, **`Moves.operands`**, **`Moves.group`**: what every such way keeps.
- **`ofTokens?_rearranges`**: the order of any tokens.
-/

namespace StringCalculator

variable {α : Type}

/-- The token is a parenthesis. -/
def Token.isParenthesis : Token α → Bool
  | lparen | rparen => true
  | operand _ | operator _ => false

namespace ReversePolish

/-! ## Places -/

section Places

variable [DecidableEq α]

/-- The parenthesis at the place `j` closes the one at the place `i`. -/
def Group (ts : List (Token α)) (i j : Nat) : Prop :=
  ∃ front inside behind, ts = front ++ .lparen :: (inside ++ .rparen :: behind)
    ∧ Balanced .lparen .rparen inside ∧ i = front.length ∧ j = front.length + 1 + inside.length

/-- **The tokens `r` are the tokens `ts` in another order**, without parentheses. For each token of `r` there
    is the place in `ts` that it comes from; of two places in a list, `[i, j].Sublist` says that `i` comes
    first. -/
structure Rearranges (ts r : List (Token α)) (places : List Nat) : Prop where
  /-- The tokens are those at the places. -/
  reads : places.map (ts[·]?) = r.map some
  /-- No token is taken twice. -/
  nodup : places.Nodup
  /-- All tokens are taken, but for the parentheses. -/
  mem_iff : ∀ i, i ∈ places ↔ ∃ t, ts[i]? = some t ∧ t.isParenthesis = false
  /-- Operands keep their order. -/
  operands : ∀ i j a b, i < j → ts[i]? = some (.operand a) → ts[j]? = some (.operand b) →
    [i, j].Sublist places
  /-- What stands inside a group comes before every operator behind the group. -/
  groups : ∀ i j k l o, Group ts i j → i < k → k < j → k ∈ places → j < l →
    ts[l]? = some (.operator o) → [k, l].Sublist places

end Places

/-! ## The way of the tokens -/

/-- A token and its place. -/
abbrev Placed (α : Type) := Token α × Nat

/-- The token is no parenthesis. -/
def Placed.isKept (x : Placed α) : Bool := !x.1.isParenthesis

/-- The token is an operand. -/
def Placed.isOperand (x : Placed α) : Bool := x.1.operand?.isSome

/-- **The way of tokens into an order**, by rules. The tokens that wait inside the innermost open parenthesis
    and around it are given; an operator releases the latest of those inside, some or all or none, and a closing
    parenthesis releases all of them. -/
inductive Moves : List (Placed α) → List (List (Placed α)) → List (Placed α) → List (Placed α) → Prop
  | nil {waiting} : Moves waiting [] [] waiting
  | operand {waiting outer a i xs ys} : Moves waiting outer xs ys →
      Moves waiting outer ((.operand a, i) :: xs) ((.operand a, i) :: ys)
  | lparen {waiting outer i xs ys} : Moves [] (waiting :: outer) xs ys →
      Moves waiting outer ((.lparen, i) :: xs) ys
  | rparen {waiting around outer i xs ys} : Moves around outer xs ys →
      Moves waiting (around :: outer) ((.rparen, i) :: xs) (waiting ++ ys)
  | operator {released kept outer o i xs ys} : Moves ((.operator o, i) :: kept) outer xs ys →
      Moves (released ++ kept) outer ((.operator o, i) :: xs) (released ++ ys)

/-- **The order is a result of the rules**, whatever places the tokens carry. -/
theorem exists_moves_of_arrange {waiting : List Operator} {outer : List (List Operator)}
    {ts r : List (Token α)} (h : arrange waiting outer ts = some r) {ws : List (Placed α)}
    {os : List (List (Placed α))} {xs : List (Placed α)} (hws : ws.map Prod.fst = waiting.map .operator)
    (hos : os.map (List.map Prod.fst) = outer.map (List.map .operator)) (hxs : xs.map Prod.fst = ts) :
    ∃ ys, Moves ws os xs ys ∧ ys.map Prod.fst = r := by
  fun_induction arrange waiting outer ts generalizing r ws os xs with
  | case1 waiting =>
    cases h
    rw [List.map_nil, List.map_eq_nil_iff] at hos
    rw [List.map_eq_nil_iff] at hxs
    subst hos hxs
    exact ⟨ws, .nil, hws⟩
  | case2 => cases h
  | case3 waiting outer a ts ih =>
    obtain ⟨r, hr, rfl⟩ := Option.map_eq_some_iff.1 h
    obtain ⟨⟨_, i⟩, xs, rfl, rfl, hrest⟩ := List.map_eq_cons_iff.1 hxs
    obtain ⟨ys, hmoves, rfl⟩ := ih hr hws hos hrest
    exact ⟨_, .operand hmoves, rfl⟩
  | case4 waiting outer ts ih =>
    obtain ⟨⟨_, i⟩, xs, rfl, rfl, hrest⟩ := List.map_eq_cons_iff.1 hxs
    have hmore : (ws :: os).map (List.map Prod.fst) = (waiting :: outer).map (List.map .operator) := by
      rw [List.map_cons, List.map_cons, hws, hos]
    -- nothing waits yet inside the parenthesis
    have hnone : ([] : List (Placed α)).map Prod.fst = [].map Token.operator := rfl
    obtain ⟨ys, hmoves, rfl⟩ := ih h hnone hmore hrest
    exact ⟨ys, .lparen hmoves, rfl⟩
  | case5 => cases h
  | case6 waiting ts around outer ih =>
    obtain ⟨r, hr, rfl⟩ := Option.map_eq_some_iff.1 h
    obtain ⟨⟨_, i⟩, xs, rfl, rfl, hrest⟩ := List.map_eq_cons_iff.1 hxs
    obtain ⟨as, os, rfl, has, hos'⟩ := List.map_eq_cons_iff.1 hos
    obtain ⟨ys, hmoves, rfl⟩ := ih hr has hos' hrest
    exact ⟨ws ++ ys, .rparen hmoves, by rw [List.map_append, hws]⟩
  | case7 waiting outer o ts =>
    rename_i ih
    obtain ⟨r, hr, rfl⟩ := Option.map_eq_some_iff.1 h
    obtain ⟨⟨_, i⟩, xs, rfl, rfl, hrest⟩ := List.map_eq_cons_iff.1 hxs
    -- the placed operators are released where the operators are
    rw [← List.takeWhile_append_dropWhile (p := (o.precedence ≤ ·.precedence)) (l := waiting),
      List.map_append] at hws
    obtain ⟨released, kept, rfl, hreleased, hkept⟩ := List.map_eq_append_iff.1 hws
    have hmore : ((.operator o, i) :: kept).map Prod.fst
        = (o :: waiting.dropWhile (o.precedence ≤ ·.precedence)).map Token.operator := by
      rw [List.map_cons, List.map_cons, hkept]
    obtain ⟨ys, hmoves, rfl⟩ := ih hr hmore hos hrest
    exact ⟨released ++ ys, .operator hmoves, by rw [List.map_append, hreleased]⟩

/-- An operator that joins those left waiting stands behind them in the list of all. -/
theorem perm_released {β : Type} {kept rest ys : List β} {x : β} (released : List β)
    (h : ys.Perm (x :: (kept ++ rest))) : (released ++ ys).Perm (released ++ (kept ++ x :: rest)) :=
  (h.trans List.perm_middle.symm).append_left released

namespace Moves

variable {ws xs ys : List (Placed α)} {os : List (List (Placed α))}

/-- **Nothing is lost and nothing is taken twice.** -/
theorem perm (h : Moves ws os xs ys) : ys.Perm (ws ++ os.flatten ++ xs.filter Placed.isKept) := by
  induction h with
  | nil => simp
  | operand _ ih => exact (ih.cons _).trans List.perm_middle.symm
  | lparen _ ih => simpa [Placed.isKept, Token.isParenthesis] using ih
  | @rparen ws as os i xs ys _ ih =>
    have hmore := ih.append_left ws
    simpa [Placed.isKept, Token.isParenthesis] using hmore
  | @operator released kept os o i xs ys _ ih =>
    have hjoined := perm_released released ih
    simpa [Placed.isKept, Token.isParenthesis] using hjoined

/-- **Operands keep their order**: only operators wait. -/
theorem operands (h : Moves ws os xs ys) (hws : ws.filter Placed.isOperand = [])
    (hos : os.flatten.filter Placed.isOperand = []) :
    ys.filter Placed.isOperand = xs.filter Placed.isOperand := by
  induction h with
  | nil => rw [hws, List.filter_nil]
  | operand _ ih => rw [List.filter_cons_of_pos rfl, List.filter_cons_of_pos rfl, ih hws hos]
  | @lparen ws os i xs ys _ ih =>
    have hmore : (ws :: os).flatten.filter Placed.isOperand = [] := by
      rw [List.flatten_cons, List.filter_append, hws, hos, List.append_nil]
    rw [ih rfl hmore]
    rfl
  | @rparen ws as os i xs ys _ ih =>
    rw [List.flatten_cons, List.filter_append] at hos
    obtain ⟨has, hos⟩ := List.append_eq_nil_iff.1 hos
    rw [List.filter_append, hws, ih has hos]
    rfl
  | @operator released kept os o i xs ys _ ih =>
    rw [List.filter_append] at hws
    obtain ⟨hreleased, hkept⟩ := List.append_eq_nil_iff.1 hws
    rw [List.filter_append, hreleased, ih hkept hos]
    rfl

/-! ## Groups -/

/-- Behind any first part of the tokens the rest goes on its way, into the last part of the order. -/
theorem split {us vs : List (Placed α)} (h : Moves ws os (us ++ vs) ys) :
    ∃ front ws' os' rest, ys = front ++ rest ∧ Moves ws' os' vs rest := by
  induction us generalizing ws os ys with
  | nil => exact ⟨[], ws, os, ys, rfl, h⟩
  | cons u us ih =>
    cases h with
    | operand h =>
      obtain ⟨front, ws', os', rest, rfl, hrest⟩ := ih h
      exact ⟨_ :: front, ws', os', rest, rfl, hrest⟩
    | lparen h => exact ih h
    | rparen h =>
      obtain ⟨front, ws', os', rest, rfl, hrest⟩ := ih h
      exact ⟨ws ++ front, ws', os', rest, (List.append_assoc _ _ _).symm, hrest⟩
    | @operator released kept _ _ _ _ _ h =>
      obtain ⟨front, ws', os', rest, rfl, hrest⟩ := ih h
      exact ⟨released ++ front, ws', os', rest, (List.append_assoc _ _ _).symm, hrest⟩

variable [DecidableEq α]

/-- **Inside a parenthesis nothing moves that waits outside.** Tokens that close so many parentheses as are
    given, and all that they open themselves, leave the others alone; what they write and what they leave
    waiting are the tokens themselves with all that waited inside. -/
theorem inside {inner : List (List (Placed α))} {gs vs : List (Placed α)}
    (h : Moves ws (inner ++ os) (gs ++ vs) ys)
    (hbalanced : BalancedFrom .lparen .rparen inner.length (gs.map Prod.fst)) :
    ∃ front ws' rest, ys = front ++ rest ∧ Moves ws' os vs rest
      ∧ (front ++ ws').Perm (ws ++ inner.flatten ++ gs.filter Placed.isKept) := by
  induction gs generalizing ws inner ys with
  | nil =>
    obtain rfl := List.length_eq_zero_iff.1 (balancedFrom_nil.1 hbalanced)
    exact ⟨[], ws, ys, rfl, h, by simp⟩
  | cons g gs ih =>
    obtain ⟨t, i⟩ := g
    rw [List.map_cons] at hbalanced
    generalize houter : inner ++ os = outer at h
    cases t with
    | operand a =>
      cases h with
      | operand h =>
        subst houter
        obtain ⟨front, ws', rest, rfl, hrest, hperm⟩ := ih h (balancedFrom_operand.1 hbalanced)
        exact ⟨_ :: front, ws', rest, rfl, hrest, (hperm.cons _).trans List.perm_middle.symm⟩
    | operator o =>
      cases h with
      | @operator released kept _ _ _ _ _ h =>
        subst houter
        obtain ⟨front, ws', rest, rfl, hrest, hperm⟩ := ih h (balancedFrom_operator.1 hbalanced)
        refine ⟨released ++ front, ws', rest, (List.append_assoc _ _ _).symm, hrest, ?_⟩
        have hjoined := perm_released released hperm
        simpa [Placed.isKept, Token.isParenthesis] using hjoined
    | lparen =>
      cases h with
      | lparen h =>
        subst houter
        have hdeeper : Moves [] ((ws :: inner) ++ os) (gs ++ vs) ys := h
        obtain ⟨front, ws', rest, rfl, hrest, hperm⟩ := ih hdeeper (balancedFrom_lparen.1 hbalanced)
        exact ⟨front, ws', rest, rfl, hrest, by simpa [Placed.isKept, Token.isParenthesis] using hperm⟩
    | rparen =>
      -- one of the given parentheses is closed
      obtain ⟨depth, hdepth, hbalanced⟩ := balancedFrom_rparen.1 hbalanced
      obtain ⟨around, inner, rfl⟩ := List.exists_cons_of_length_eq_add_one hdepth
      obtain rfl : inner.length = depth := Nat.succ.inj hdepth
      cases h with
      | rparen h =>
        obtain ⟨rfl, rfl⟩ := List.cons.inj houter
        obtain ⟨front, ws', rest, rfl, hrest, hperm⟩ := ih h hbalanced
        refine ⟨ws ++ front, ws', rest, (List.append_assoc _ _ _).symm, hrest, ?_⟩
        have hmore := hperm.append_left ws
        simpa [Placed.isKept, Token.isParenthesis] using hmore

/-- **A group comes out as one piece**, and everything behind it later. -/
theorem group {us gs vs : List (Placed α)} {i j : Nat}
    (h : Moves ws os (us ++ (.lparen, i) :: (gs ++ (.rparen, j) :: vs)) ys)
    (hbalanced : Balanced .lparen .rparen (gs.map Prod.fst)) :
    ∃ front piece rest, ys = front ++ piece ++ rest ∧ piece.Perm (gs.filter Placed.isKept)
      ∧ ∀ x ∈ vs.filter Placed.isKept, x ∈ rest := by
  obtain ⟨front, ws', os', rest, rfl, hgroup⟩ := h.split
  cases hgroup with
  | lparen hgroup =>
    have hinside : Moves [] ([] ++ ws' :: os') (gs ++ (.rparen, j) :: vs) rest := hgroup
    obtain ⟨written, waiting, rest, rfl, hclose, hperm⟩ :=
      hinside.inside (balancedFrom_zero_iff.2 hbalanced)
    cases hclose with
    | @rparen _ _ _ _ _ rest hbehind =>
      refine ⟨front, written ++ waiting, rest, by simp, hperm, ?_⟩
      intro x hx
      exact hbehind.perm.mem_iff.2 (List.mem_append_right _ hx)

end Moves

/-! ## The places of an order -/

section Lists

variable {β : Type} {l front inside behind : List β} {a b x y : β} {i j k : Nat}

/-- Of two places in a list the first comes first. -/
theorem sublist_of_getElem? (hij : i < j) (hi : l[i]? = some x) (hj : l[j]? = some y) :
    [x, y].Sublist l := by
  obtain ⟨hilen, rfl⟩ := List.getElem?_eq_some_iff.1 hi
  obtain ⟨hjlen, rfl⟩ := List.getElem?_eq_some_iff.1 hj
  have hpairs : l.Pairwise fun a b => [a, b].Sublist l := List.pairwise_iff_forall_sublist.2 id
  exact List.pairwise_iff_getElem.1 hpairs i j hilen hjlen hij

/-- What stands between two places, with its own places. -/
theorem mem_zipIdx_inside (h : (front ++ a :: (inside ++ b :: behind))[k]? = some x)
    (hfront : front.length < k) (hbehind : k < front.length + 1 + inside.length) :
    (x, k) ∈ inside.zipIdx (front.length + 1) := by
  rw [List.mk_mem_zipIdx_iff_le_and_getElem?_sub]
  grind

/-- What stands behind them, with its own places. -/
theorem mem_zipIdx_behind (h : (front ++ a :: (inside ++ b :: behind))[k]? = some x)
    (hbehind : front.length + 1 + inside.length < k) :
    (x, k) ∈ behind.zipIdx (front.length + 1 + inside.length + 1) := by
  rw [List.mk_mem_zipIdx_iff_le_and_getElem?_sub]
  grind

end Lists

variable {ts r : List (Token α)}

/-- The order of tokens is a result of the rules for the tokens with their own places. -/
theorem exists_moves (h : ofTokens? ts = some r) :
    ∃ ys, Moves [] [] ts.zipIdx ys ∧ ys.map Prod.fst = r := by
  have hws : ([] : List (Placed α)).map Prod.fst = [].map Token.operator := rfl
  have hos : ([] : List (List (Placed α))).map (List.map Prod.fst) = [].map (List.map Token.operator) := rfl
  exact exists_moves_of_arrange h hws hos (List.zipIdx_map_fst 0 ts)

namespace Moves

variable {ys : List (Placed α)}

theorem perm_zipIdx (h : Moves [] [] ts.zipIdx ys) : ys.Perm (ts.zipIdx.filter Placed.isKept) := h.perm

/-- The tokens of the order are those at their places. -/
theorem mem_iff (h : Moves [] [] ts.zipIdx ys) {x : Placed α} :
    x ∈ ys ↔ ts[x.2]? = some x.1 ∧ x.1.isParenthesis = false := by
  rw [h.perm_zipIdx.mem_iff, List.mem_filter, List.mem_zipIdx_iff_getElem?]
  simp [Placed.isKept]

/-- No place is taken twice. -/
theorem nodup_places (h : Moves [] [] ts.zipIdx ys) : (ys.map Prod.snd).Nodup := by
  have hall : (ts.zipIdx.map Prod.snd).Nodup := by
    rw [List.zipIdx_map_snd]
    exact List.nodup_range'
  rw [(h.perm_zipIdx.map Prod.snd).nodup_iff]
  exact hall.sublist (List.filter_sublist.map Prod.snd)

/-- The places of operands keep their order. -/
theorem operands_sublist (h : Moves [] [] ts.zipIdx ys) {i j : Nat} {a b : α} (hij : i < j)
    (hi : ts[i]? = some (.operand a)) (hj : ts[j]? = some (.operand b)) :
    [i, j].Sublist (ys.map Prod.snd) := by
  have hpair : [(.operand a, i), (.operand b, j)].Sublist ts.zipIdx := by
    apply sublist_of_getElem? hij
    · simp [hi]
    · simp [hj]
  have hoperands : ys.filter Placed.isOperand = ts.zipIdx.filter Placed.isOperand := h.operands rfl rfl
  have hkept := hpair.filter Placed.isOperand
  rw [← hoperands] at hkept
  exact (hkept.trans List.filter_sublist).map Prod.snd

/-- The places inside a group come before those of the operators behind it. -/
theorem group_sublist [DecidableEq α] (h : Moves [] [] ts.zipIdx ys) {i j k l : Nat} {o : Operator}
    (hgroup : Group ts i j) (hik : i < k) (hkj : k < j) (hk : k ∈ ys.map Prod.snd) (hjl : j < l)
    (hl : ts[l]? = some (.operator o)) : [k, l].Sublist (ys.map Prod.snd) := by
  obtain ⟨x, hx, rfl⟩ := List.mem_map.1 hk
  obtain ⟨hplace, hkept⟩ := h.mem_iff.1 hx
  obtain ⟨front, inside, behind, rfl, hbalanced, rfl, rfl⟩ := hgroup
  rw [List.zipIdx_append, List.zipIdx_cons, List.zipIdx_append, List.zipIdx_cons, Nat.zero_add] at h
  obtain ⟨before, piece, rest, rfl, hpiece, hrest⟩ := h.group (by rwa [List.zipIdx_map_fst])
  have hinside : x ∈ piece := by
    apply hpiece.mem_iff.2
    exact List.mem_filter.2 ⟨mem_zipIdx_inside hplace hik hkj, by simpa [Placed.isKept] using hkept⟩
  have hbehind : (.operator o, l) ∈ rest :=
    hrest _ (List.mem_filter.2 ⟨mem_zipIdx_behind hl hjl, rfl⟩)
  have hpair : [x, (.operator o, l)].Sublist (before ++ piece ++ rest) :=
    (List.singleton_sublist.2 (List.mem_append_right before hinside)).append
      (List.singleton_sublist.2 hbehind)
  exact hpair.map Prod.snd

end Moves

/-- The order has the given tokens, as often as they are given, but for the parentheses. -/
theorem perm_of_ofTokens? (h : ofTokens? ts = some r) : r.Perm (ts.filter fun t => !t.isParenthesis) := by
  obtain ⟨ys, hmoves, rfl⟩ := exists_moves h
  have hkept : (ts.zipIdx.filter Placed.isKept).map Prod.fst = ts.filter fun t => !t.isParenthesis := by
    rw [← List.zipIdx_map_fst 0 ts, List.filter_map, List.zipIdx_map_fst]
    rfl
  rw [← hkept]
  exact hmoves.perm_zipIdx.map Prod.fst

theorem outcome_ofTokens?_eq_ok_iff :
    (Logged.ofOption CalculationError.mismatchedParentheses (ofTokens? ts)).outcome = .ok r
      ↔ ofTokens? ts = some r := by
  cases ofTokens? ts <;> simp [Logged.ofOption, Logged.fail]

variable [DecidableEq α]

/-- The order takes the tokens from their places. -/
theorem exists_rearranges (h : ofTokens? ts = some r) : ∃ places, Rearranges ts r places := by
  obtain ⟨ys, hmoves, rfl⟩ := exists_moves h
  refine ⟨ys.map Prod.snd, ?_, hmoves.nodup_places, ?_, ?_, ?_⟩
  · rw [List.map_map, List.map_map]
    apply List.map_congr_left
    intro x hx
    exact (hmoves.mem_iff.1 hx).1
  · intro i
    rw [List.mem_map]
    constructor
    · rintro ⟨x, hx, rfl⟩
      exact ⟨x.1, hmoves.mem_iff.1 hx⟩
    · rintro ⟨t, ht⟩
      exact ⟨(t, i), hmoves.mem_iff.2 ht, rfl⟩
  · intro i j a b hij hi hj
    exact hmoves.operands_sublist hij hi hj
  · intro i j k l o hgroup hik hkj hk hjl hl
    exact hmoves.group_sublist hgroup hik hkj hk hjl hl

/-- **The order of any tokens**, an expression or not. It is found just if the parentheses match, and
    otherwise they are reported as mismatched. It has no parenthesis, all other tokens as often as they are
    given, and the operands in their order; and by the places where its tokens come from, whatever stands in a
    group comes before the operators behind the group. -/
theorem ofTokens?_rearranges (ts : List (Token α)) :
    ((∃ r, (Logged.ofOption CalculationError.mismatchedParentheses (ofTokens? ts)).outcome = .ok r)
      ↔ Balanced .lparen .rparen ts)
    ∧ (¬Balanced .lparen .rparen ts →
      (Logged.ofOption CalculationError.mismatchedParentheses (ofTokens? ts)).outcome
        = .error .mismatchedParentheses)
    ∧ ∀ r, (Logged.ofOption CalculationError.mismatchedParentheses (ofTokens? ts)).outcome = .ok r →
      (∀ t ∈ r, t.isParenthesis = false) ∧ r.Perm (ts.filter fun t => !t.isParenthesis)
      ∧ r.filterMap Token.operand? = ts.filterMap Token.operand? ∧ ∃ places, Rearranges ts r places := by
  simp only [outcome_ofTokens?_eq_ok_iff]
  refine ⟨?_, ?_, ?_⟩
  · rw [← Option.isSome_iff_exists]
    exact isSome_ofTokens?_iff
  · intro hnot
    have hnone : ofTokens? ts = none := by
      rwa [← Option.not_isSome_iff_eq_none, isSome_ofTokens?_iff]
    rw [hnone]
    rfl
  · intro r hr
    have hperm := perm_of_ofTokens? hr
    refine ⟨?_, hperm, filterMap_operand?_arrange hr, exists_rearranges hr⟩
    intro t ht
    have hkept := (List.mem_filter.1 (hperm.mem_iff.1 ht)).2
    simpa using hkept

/-- No expression: `+ ( 1 2 * ) - ( ) 3`. The product, though written behind its operands, comes before the
    difference; and a group may be empty. -/
theorem ofTokens?_rearranges_malformed :
    let ts : List (Token Number) := [.operator .add, .lparen, .operand 1, .operand 2, .operator .mul, .rparen,
      .operator .sub, .lparen, .rparen, .operand 3]
    let r : List (Token Number) := [.operand 1, .operand 2, .operator .mul, .operator .add, .operand 3,
      .operator .sub]
    Balanced .lparen .rparen ts
    ∧ (Logged.ofOption CalculationError.mismatchedParentheses (ofTokens? ts)).outcome = .ok r
    ∧ r.Perm (ts.filter fun t => !t.isParenthesis)
    ∧ ∃ places, Rearranges ts r places ∧ Group ts 1 5 ∧ [4, 6].Sublist places := by
  intro ts r
  obtain ⟨hfound, -, horder⟩ := ofTokens?_rearranges ts
  have hr : (Logged.ofOption CalculationError.mismatchedParentheses (ofTokens? ts)).outcome = .ok r := rfl
  obtain ⟨-, hperm, -, places, hplaces⟩ := horder r hr
  have hgroup : Group ts 1 5 :=
    ⟨[.operator .add], [.operand 1, .operand 2, .operator .mul],
      [.operator .sub, .lparen, .rparen, .operand 3], rfl, by decide, rfl, rfl⟩
  have hmul : 4 ∈ places := (hplaces.mem_iff 4).2 ⟨.operator .mul, rfl, rfl⟩
  have hbefore := hplaces.groups 1 5 4 6 .sub hgroup (by decide) (by decide) hmul (by decide) rfl
  exact ⟨hfound.1 ⟨r, hr⟩, hr, hperm, places, hplaces, hgroup, hbefore⟩

end ReversePolish

end StringCalculator
