import Formulary.Proofs.Expr.Grammar
import Formulary.Proofs.Expr.Validity
import Formulary.Proofs.Token.Kinds

/-!
# The canonical text of a tree reads as the tree

The text of a tree whose names are symbols is cut into exactly the tokens of the tree
(`kinds_render`): names and integers stand apart from each other, for there is a space or a
delimiter between any two. What is read from these tokens is settled in
`Formulary.Proofs.Expr.Grammar`. For the converse, whatever is read from a text has symbols for
names (`validNames_of_parse`).

* `parse_render_iff`: which trees read back from their text, and that all trees that are valid or
  were read are among them.
-/

namespace Formulary.Expr

open Token (kinds StartsApart startsApart_cons isSymbol)

/-! ## From a tree to its tokens -/

theorem kinds_lambdaKeyword {rest : List Char} (hrest : StartsApart rest) :
    kinds (lambdaKeyword.toList ++ rest) = .symbol lambdaKeyword :: kinds rest :=
  Token.kinds_symbol (by decide) hrest

theorem kinds_condKeyword {rest : List Char} (hrest : StartsApart rest) :
    kinds (condKeyword.toList ++ rest) = .symbol condKeyword :: kinds rest :=
  Token.kinds_symbol (by decide) hrest

theorem kinds_params {params : List String} (h : ∀ name ∈ params, isSymbol name)
    (rest : List Char) :
    kinds ((" ".intercalate params).toList ++ ']' :: rest) =
      params.map .symbol ++ .closeBracket :: kinds rest := by
  rw [String.toList_intercalate]
  induction params with
  | nil => simp
  | cons name params ih =>
    obtain ⟨hname, hparams⟩ := List.forall_mem_cons.1 h
    cases params with
    | nil =>
      have hstart : Token.StartsApart (']' :: rest) := startsApart_cons.2 rfl
      simpa using Token.kinds_symbol hname hstart
    | cons next params =>
      have hspace : " ".toList = [' '] := rfl
      rw [List.map_cons, List.map_cons, List.intercalate_cons_cons, List.append_assoc,
        List.append_assoc, hspace, List.singleton_append,
        Token.kinds_symbol hname (startsApart_cons.2 rfl), Token.kinds_space]
      exact congrArg _ (ih hparams)

theorem toList_render_lambda (params : List String) (body : Expr) :
    (lambda params body).render.toList =
      '(' :: (lambdaKeyword.toList ++ ' ' :: '[' :: ((" ".intercalate params).toList ++
        ']' :: ' ' :: (body.render.toList ++ [')']))) := by
  simp [render]

theorem toList_render_cond (test yes no : Expr) :
    (cond test yes no).render.toList =
      '(' :: (condKeyword.toList ++ ' ' :: (test.render.toList ++ ' ' :: (yes.render.toList ++
        ' ' :: (no.render.toList ++ [')'])))) := by
  simp [render]

theorem toList_render_apply (operator : Expr) (args : List Expr) :
    (apply operator args).render.toList =
      '(' :: (operator.render.toList ++ ((renderArgs args).toList ++ [')'])) := by
  simp [render]

/-- Arguments are read one by one, if each of them is. -/
theorem kinds_renderArgs {args : List Expr}
    (each : ∀ a ∈ args, ∀ rest, StartsApart rest →
      kinds (a.render.toList ++ rest) = a.flatten ++ kinds rest)
    {rest : List Char} (hrest : StartsApart rest) :
    StartsApart ((renderArgs args).toList ++ rest) ∧
      kinds ((renderArgs args).toList ++ rest) = flattenAll args ++ kinds rest := by
  induction args with
  | nil => exact ⟨hrest, rfl⟩
  | cons a as ih =>
    obtain ⟨ha, has⟩ := List.forall_mem_cons.1 each
    obtain ⟨hstart, hkinds⟩ := ih has
    have htext : (renderArgs (a :: as)).toList ++ rest =
        ' ' :: (a.render.toList ++ ((renderArgs as).toList ++ rest)) := by
      simp [renderArgs]
    rw [htext]
    refine ⟨startsApart_cons.2 rfl, ?_⟩
    rw [Token.kinds_space, ha _ hstart, hkinds, flattenAll, List.append_assoc]

/-- The text of a tree is cut into the tokens of the tree, unless it touches a further run. -/
theorem kinds_render {e : Expr} (h : e.ValidNames) {rest : List Char} (hrest : StartsApart rest) :
    kinds (e.render.toList ++ rest) = e.flatten ++ kinds rest := by
  -- the blank or delimiter behind each part keeps it apart from what follows
  induction e generalizing rest with
  | symbol name => exact Token.kinds_symbol (everywhere_symbol.1 h) hrest
  | integer value => exact Token.kinds_integer value hrest
  | lambda params body ih =>
    obtain ⟨hparams, hbody⟩ := everywhere_lambda.1 h
    rw [toList_render_lambda]
    simp only [List.cons_append, List.append_assoc, List.nil_append]
    rw [Token.kinds_openParen, kinds_lambdaKeyword (startsApart_cons.2 rfl), Token.kinds_space,
      Token.kinds_openBracket, kinds_params hparams, Token.kinds_space,
      ih hbody (startsApart_cons.2 rfl), Token.kinds_closeParen]
    simp [flatten]
  | cond test yes no iht ihy ihn =>
    obtain ⟨-, ht, hy, hn⟩ := everywhere_cond.1 h
    rw [toList_render_cond]
    simp only [List.cons_append, List.append_assoc, List.nil_append]
    rw [Token.kinds_openParen, kinds_condKeyword (startsApart_cons.2 rfl), Token.kinds_space,
      iht ht (startsApart_cons.2 rfl), Token.kinds_space, ihy hy (startsApart_cons.2 rfl),
      Token.kinds_space, ihn hn (startsApart_cons.2 rfl), Token.kinds_closeParen]
    simp [flatten]
  | apply operator args iho iha =>
    obtain ⟨-, ho, ha⟩ := everywhere_apply.1 h
    have hclose : Token.StartsApart (')' :: rest) := startsApart_cons.2 rfl
    obtain ⟨hstart, hargs⟩ := kinds_renderArgs (fun a hmem rest => iha a hmem (ha a hmem)) hclose
    rw [toList_render_apply]
    simp only [List.cons_append, List.append_assoc, List.nil_append]
    rw [Token.kinds_openParen, iho ho hstart, hargs, Token.kinds_closeParen]
    simp [flatten]

theorem map_kind_tokenize_render {e : Expr} (h : e.ValidNames) :
    (Token.tokenize e.render).map Token.kind = e.flatten := by
  rw [Token.map_kind_tokenize]
  simpa using kinds_render h Token.startsApart_nil

/-! ## From tokens to a tree -/

/-- The names in a tree are among its tokens. -/
theorem validNames_of_flatten {e : Expr}
    (h : ∀ name, Token.Kind.symbol name ∈ e.flatten → isSymbol name) : e.ValidNames := by
  induction e with
  | symbol name => exact everywhere_symbol.2 (h name (by simp [flatten]))
  | integer value => exact everywhere_integer.2 trivial
  | lambda params body ih =>
    refine everywhere_lambda.2 ⟨fun name hname => h name ?_, ih fun name hname => h name ?_⟩
    · simp [flatten, hname]
    · simp [flatten, hname]
  | cond test yes no iht ihy ihn =>
    refine everywhere_cond.2 ⟨trivial, iht fun name hname => h name ?_,
      ihy fun name hname => h name ?_, ihn fun name hname => h name ?_⟩ <;>
    simp [flatten, hname]
  | apply operator args iho iha =>
    refine everywhere_apply.2 ⟨trivial, iho fun name hname => h name ?_,
      fun a ha => iha a ha fun name hname => h name ?_⟩
    · simp [flatten, hname]
    · simp only [flatten, flattenAll_eq_flatMap, List.mem_cons, List.mem_append, List.mem_flatMap]
      exact .inr (.inl (.inr ⟨a, ha, hname⟩))

variable {maxDepth : Nat} {source : String} {e : Expr}

theorem parse_eq_ok_iff :
    parse maxDepth source = .ok e ↔
      kinds source.toList = e.flatten ∧ e.PlainOperators ∧
        e.formDepth ≤ min maxDepth greatestMaxDepth := by
  rw [parse, Parse.tokens_eq_ok_iff_fits, Parse.fits_zero_iff, Token.map_kind_tokenize]

/-- The names in what was read are symbols. -/
theorem validNames_of_parse (h : parse maxDepth source = .ok e) : e.ValidNames :=
  validNames_of_flatten fun _ hname =>
    Token.isSymbol_of_mem_kinds ((parse_eq_ok_iff.1 h).1 ▸ hname)

theorem parse_render_of_validNames (hnames : e.ValidNames) (hplain : e.PlainOperators)
    (hdepth : e.formDepth ≤ min maxDepth greatestMaxDepth) : parse maxDepth e.render = .ok e := by
  rw [parse_eq_ok_iff, ← Token.map_kind_tokenize]
  exact ⟨map_kind_tokenize_render hnames, hplain, hdepth⟩

/-- A tree reads back from its text exactly if it does not nest too deep, its names are symbols and
    its operators plain. Valid trees are of this kind, and so is everything that was read. -/
theorem parse_render_iff (maxDepth : Nat) :
    (∀ e : Expr, parse maxDepth e.render = .ok e ↔
      e.formDepth ≤ min maxDepth greatestMaxDepth ∧ e.ValidNames ∧ e.PlainOperators) ∧
    (∀ e : Expr, validate e = .ok () → e.formDepth ≤ min maxDepth greatestMaxDepth →
      parse maxDepth e.render = .ok e) ∧
    ∀ (source : String) (e : Expr), parse maxDepth source = .ok e →
      parse maxDepth e.render = .ok e := by
  refine ⟨fun e => ⟨fun h => ?_, fun ⟨hdepth, hnames, hplain⟩ => ?_⟩, fun e hvalid hdepth => ?_,
    fun source e h => ?_⟩
  · obtain ⟨-, hplain, hdepth⟩ := parse_eq_ok_iff.1 h
    exact ⟨hdepth, validNames_of_parse h, hplain⟩
  · exact parse_render_of_validNames hnames hplain hdepth
  · exact parse_render_of_validNames (validNames_of_validate hvalid)
      (plainOperators_of_validate hvalid) hdepth
  · obtain ⟨-, hplain, hdepth⟩ := parse_eq_ok_iff.1 h
    exact parse_render_of_validNames (validNames_of_parse h) hplain hdepth

/-- A keyword that is no operator is written and read as a name. -/
theorem parse_render_keyword_argument :
    parse 2 (render (.apply (.symbol "f") [.symbol "if", .lambda ["x", "x"] (.integer (-1))])) =
      .ok (.apply (.symbol "f") [.symbol "if", .lambda ["x", "x"] (.integer (-1))]) := by
  have hread : parse 7 "(f if (lam [x x] -1))" =
      .ok (.apply (.symbol "f") [.symbol "if", .lambda ["x", "x"] (.integer (-1))]) := by
    decide +kernel
  refine ((parse_render_iff 2).1 _).2 ⟨by decide, validNames_of_parse hread, ?_⟩
  exact (parse_eq_ok_iff.1 hread).2.1

end Formulary.Expr
