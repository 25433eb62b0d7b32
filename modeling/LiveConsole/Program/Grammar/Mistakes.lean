import LiveConsole.Program.Grammar.Notation

/-!
# The grammar of mistakes

What is wrong with a text that is no program is found out with rules of their own. Where none of them
fits, the text is no program for no reason that has a name.
-/
namespace LiveConsole.Program.Grammar

/-- Mistakes in expressions and in what is bound. -/
def expressionMistakes : String := "
wrong_arguments:
  | args ',' '*' => wrong
  | expression for_if_clauses ',' [ args | expression for_if_clauses ] => wrong
  | NAME '=' expression for_if_clauses => wrong
  | args for_if_clauses => crowded
  | args ',' expression for_if_clauses => wrong
  | args ',' args => wrong
wrong_kwarg:
  | ( 'True' | 'False' | 'None' ) '=' => wrong
  | NAME '=' expression for_if_clauses => wrong
  | !( NAME '=' ) expression '=' => wrong
expression_alone (unexplained):
  | disjunction 'if' disjunction 'else' expression
  | disjunction
  | lambdef
wrong_legacy_expression:
  | NAME !'(' star_expressions => statement_of_old
wrong_expression:
  | !( NAME TEXT | SOFT_WORD ) disjunction expression_alone => comma_forgotten
  | disjunction 'if' disjunction !( 'else' | ':' ) => wrong
wrong_named_expression (kept):
  | expression ':=' expression => wrong
  | NAME '=' bitwise_or !( '=' | ':=' ) => wrong
  | !( list | tuple | genexp | 'True' | 'None' | 'False' ) bitwise_or '=' bitwise_or !( '=' | ':=' ) => wrong
wrong_assignment:
  | wrong_ann_assign_target ':' expression => wrong
  | star_named_expression ',' star_named_expressions* ':' expression => wrong
  | expression ':' expression => wrong
  | ( star_targets '=' )* star_expressions '=' => unassignable
  | ( star_targets '=' )* yield_expr '=' => wrong
  | star_expressions augassign ( yield_expr | star_expressions ) => wrong
wrong_ann_assign_target:
  | list
  | tuple
  | '(' wrong_ann_assign_target ')'
wrong_del_stmt:
  | 'del' star_expressions => undeletable
wrong_comprehension:
  | ( '[' | '(' | '\x7b' ) starred_expression for_if_clauses => wrong
  | ( '[' | '\x7b' ) star_named_expression ',' star_named_expressions for_if_clauses => wrong
  | ( '[' | '\x7b' ) star_named_expression ',' for_if_clauses => wrong
wrong_dict_comprehension:
  | '\x7b' '**' bitwise_or for_if_clauses '\x7d' => wrong
wrong_with_item:
  | expression 'as' expression &( ',' | ')' | ':' ) => unassignable
wrong_for_target:
  | [ 'async' ] 'for' star_expressions => unloopable
wrong_group:
  | '(' starred_expression ')' => wrong
  | '(' '**' expression ')' => wrong
wrong_double_starred_kvpairs:
  | ','.double_starred_kvpair+ ',' wrong_kvpair
  | expression ':' '*' bitwise_or => wrong
  | expression ':' &( '\x7d' | ',' ) => wrong
wrong_kvpair:
  | expression !( ':' ) => wrong
  | expression ':' '*' bitwise_or => wrong
  | expression ':' &( '\x7d' | ',' ) => wrong
"

/-- Mistakes in the parameters of functions. -/
def parameterMistakes : String := "
wrong_parameters:
  | param_no_default* wrong_parameters_helper param_no_default => wrong
  | param_no_default* '(' param_no_default+ [ ',' ] ')' => wrong
  | '/' ',' => wrong
  | ( slash_no_default | slash_with_default ) param_maybe_default* '/' => wrong
  | [ slash_no_default | slash_with_default ] param_maybe_default* '*' ( ',' | param_no_default ) param_maybe_default* '/' => wrong
  | param_maybe_default+ '/' '*' => wrong
wrong_default:
  | '=' &( ')' | ',' ) => wrong
wrong_star_etc:
  | '*' ( ')' | ',' ( ')' | '**' ) ) => wrong
  | '*' param '=' => wrong
  | '*' ( param_no_default | ',' ) param_maybe_default* '*' ( param_no_default | ',' ) => wrong
wrong_kwds:
  | '**' param '=' => wrong
  | '**' param ',' param => wrong
  | '**' param ',' ( '*' | '**' | '/' ) => wrong
wrong_parameters_helper:
  | slash_with_default
  | param_with_default+
wrong_lambda_parameters:
  | lambda_param_no_default* wrong_lambda_parameters_helper lambda_param_no_default => wrong
  | lambda_param_no_default* '(' ','.lambda_param+ [ ',' ] ')' => wrong
  | '/' ',' => wrong
  | ( lambda_slash_no_default | lambda_slash_with_default ) lambda_param_maybe_default* '/' => wrong
  | [ lambda_slash_no_default | lambda_slash_with_default ] lambda_param_maybe_default* '*' ( ',' | lambda_param_no_default ) lambda_param_maybe_default* '/' => wrong
  | lambda_param_maybe_default+ '/' '*' => wrong
wrong_lambda_parameters_helper:
  | lambda_slash_with_default
  | lambda_param_with_default+
wrong_lambda_star_etc:
  | '*' ( ':' | ',' ( ':' | '**' ) ) => wrong
  | '*' lambda_param '=' => wrong
  | '*' ( lambda_param_no_default | ',' ) lambda_param_maybe_default* '*' ( lambda_param_no_default | ',' ) => wrong
wrong_lambda_kwds:
  | '**' lambda_param '=' => wrong
  | '**' lambda_param ',' lambda_param => wrong
  | '**' lambda_param ',' ( '*' | '**' | '/' ) => wrong
"

/-- Mistakes in statements with a body, in patterns and in imports. -/
def statementMistakes : String := "
wrong_block:
  | LINE_END !INDENT => indented
wrong_import_from_targets:
  | import_from_as_names ',' LINE_END => wrong
wrong_with_stmt:
  | [ 'async' ] 'with' ','.( expression [ 'as' star_target ] )+ LINE_END => wrong
  | [ 'async' ] 'with' '(' ','.( expressions [ 'as' star_target ] )+ [ ',' ] ')' LINE_END => wrong
wrong_with_stmt_indent:
  | [ 'async' ] 'with' ','.( expression [ 'as' star_target ] )+ ':' LINE_END !INDENT => indented
  | [ 'async' ] 'with' '(' ','.( expressions [ 'as' star_target ] )+ [ ',' ] ')' ':' LINE_END !INDENT => indented
wrong_try_stmt:
  | 'try' ':' LINE_END !INDENT => indented
  | 'try' ':' block !( 'except' | 'finally' ) => wrong
  | 'try' ':' block* ( ( except_block+ except_star_block ) | ( except_star_block+ except_block ) ) block* => wrong
wrong_except_stmt:
  | 'except' [ '*' ] expression ',' expressions [ 'as' NAME ] ':' => wrong
  | 'except' [ '*' ] expression [ 'as' NAME ] LINE_END => wrong
  | 'except' LINE_END => wrong
  | 'except' '*' ( LINE_END | ':' ) => wrong
wrong_finally_stmt:
  | 'finally' ':' LINE_END !INDENT => indented
wrong_except_stmt_indent:
  | 'except' expression [ 'as' NAME ] ':' LINE_END !INDENT => indented
  | 'except' ':' LINE_END !INDENT => indented
wrong_except_star_stmt_indent:
  | 'except' '*' expression [ 'as' NAME ] ':' LINE_END !INDENT => indented
wrong_match_stmt:
  | @match subject_expr LINE_END => wrong
  | @match subject_expr ':' LINE_END !INDENT => indented
wrong_case_block:
  | @case patterns [ guard ] LINE_END => wrong
  | @case patterns [ guard ] ':' LINE_END !INDENT => indented
wrong_as_pattern:
  | or_pattern 'as' @_ => wrong
  | or_pattern 'as' !NAME expression => wrong
wrong_class_pattern:
  | name_or_attr '(' wrong_class_argument_pattern => wrong
wrong_class_argument_pattern:
  | [ positional_patterns ',' ] keyword_patterns ',' positional_patterns
wrong_if_stmt:
  | 'if' named_expression LINE_END => wrong
  | 'if' named_expression ':' LINE_END !INDENT => indented
wrong_elif_stmt:
  | 'elif' named_expression LINE_END => wrong
  | 'elif' named_expression ':' LINE_END !INDENT => indented
wrong_else_stmt:
  | 'else' ':' LINE_END !INDENT => indented
wrong_while_stmt:
  | 'while' named_expression LINE_END => wrong
  | 'while' named_expression ':' LINE_END !INDENT => indented
wrong_for_stmt:
  | [ 'async' ] 'for' star_targets 'in' star_expressions LINE_END => wrong
  | [ 'async' ] 'for' star_targets 'in' star_expressions ':' LINE_END !INDENT => indented
wrong_def_raw:
  | [ 'async' ] 'def' NAME '(' [ params ] ')' [ '->' expression ] ':' LINE_END !INDENT => indented
wrong_class_def_raw:
  | 'class' NAME [ '(' [ arguments ] ')' ] LINE_END => wrong
  | 'class' NAME [ '(' [ arguments ] ')' ] ':' LINE_END !INDENT => indented
"

end LiveConsole.Program.Grammar
