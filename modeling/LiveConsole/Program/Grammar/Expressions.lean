import LiveConsole.Program.Grammar.Notation

/-!
# The grammar of expressions

From the widest, which hold commas, to the narrowest, which are single tokens or stand between brackets;
and what can be bound, which looks like an expression.
-/
namespace LiveConsole.Program.Grammar

/-- Expressions put together by words and operators. -/
def operations : String := "
expressions:
  | expression ( ',' expression )+ [ ',' ]
  | expression ','
  | expression
expression (kept):
  | wrong_expression
  | wrong_legacy_expression
  | disjunction 'if' disjunction 'else' expression
  | disjunction
  | lambdef
yield_expr:
  | 'yield' 'from' expression
  | 'yield' [ star_expressions ]
star_expressions:
  | star_expression ( ',' star_expression => same )+ [ ',' ] => row
  | star_expression ',' => row
  | star_expression
star_expression (kept):
  | '*' bitwise_or => starred
  | expression
star_named_expressions:
  | ','.star_named_expression+ [ ',' ] => row
star_named_expression:
  | '*' bitwise_or => starred
  | named_expression
assignment_expression:
  | NAME ':=' ~ expression
named_expression:
  | assignment_expression
  | wrong_named_expression
  | expression !':=' => same
disjunction (kept):
  | conjunction ( 'or' conjunction )+
  | conjunction
conjunction (kept):
  | inversion ( 'and' inversion )+
  | inversion
inversion (kept):
  | 'not' inversion
  | comparison
comparison:
  | bitwise_or compare_op_bitwise_or_pair+ => compared
  | bitwise_or
compare_op_bitwise_or_pair:
  | eq_bitwise_or
  | noteq_bitwise_or
  | lte_bitwise_or
  | lt_bitwise_or
  | gte_bitwise_or
  | gt_bitwise_or
  | notin_bitwise_or
  | in_bitwise_or
  | isnot_bitwise_or
  | is_bitwise_or
eq_bitwise_or:
  | '==' bitwise_or
noteq_bitwise_or:
  | ( '!=' => same ) bitwise_or
lte_bitwise_or:
  | '<=' bitwise_or
lt_bitwise_or:
  | '<' bitwise_or
gte_bitwise_or:
  | '>=' bitwise_or
gt_bitwise_or:
  | '>' bitwise_or
notin_bitwise_or:
  | 'not' 'in' bitwise_or
in_bitwise_or:
  | 'in' bitwise_or
isnot_bitwise_or:
  | 'is' 'not' bitwise_or
is_bitwise_or:
  | 'is' bitwise_or
bitwise_or (grows):
  | bitwise_or '|' bitwise_xor
  | bitwise_xor
bitwise_xor (grows):
  | bitwise_xor '^' bitwise_and
  | bitwise_and
bitwise_and (grows):
  | bitwise_and '&' shift_expr
  | shift_expr
shift_expr (grows):
  | shift_expr '<<' sum
  | shift_expr '>>' sum
  | sum
sum (grows):
  | sum '+' term
  | sum '-' term
  | term
term (grows):
  | term '*' factor
  | term '/' factor
  | term '//' factor
  | term '%' factor
  | term '@' factor
  | factor
factor (kept):
  | '+' factor
  | '-' factor
  | '~' factor
  | power
power:
  | await_primary '**' factor
  | await_primary
await_primary (kept):
  | 'await' primary
  | primary
primary (grows):
  | primary '.' NAME => target
  | primary genexp
  | primary '(' [ arguments ] ')'
  | primary '[' slices ']' => target
  | atom
slices:
  | slice !','
  | ','.( slice | starred_expression )+ [ ',' ]
slice:
  | [ expression ] ':' [ expression ] [ ':' [ expression ] ]
  | named_expression
atom:
  | NAME
  | 'True'
  | 'False'
  | 'None'
  | &TEXT strings
  | NUMBER
  | &'(' ( tuple | group | genexp )
  | &'[' ( list | listcomp )
  | &'\x7b' ( dict | set | dictcomp | setcomp )
  | '...'
group:
  | '(' ( yield_expr | named_expression ) ')' => same
  | wrong_group
"

/-- Functions without a name. -/
def functionExpressions : String := "
lambdef:
  | 'lambda' [ lambda_params ] ':' expression
lambda_params:
  | wrong_lambda_parameters
  | lambda_parameters
lambda_parameters:
  | lambda_slash_no_default lambda_param_no_default* lambda_param_with_default* [ lambda_star_etc ]
  | lambda_slash_with_default lambda_param_with_default* [ lambda_star_etc ]
  | lambda_param_no_default+ lambda_param_with_default* [ lambda_star_etc ]
  | lambda_param_with_default+ [ lambda_star_etc ]
  | lambda_star_etc
lambda_slash_no_default:
  | lambda_param_no_default+ '/' ','
  | lambda_param_no_default+ '/' &':'
lambda_slash_with_default:
  | lambda_param_no_default* lambda_param_with_default+ '/' ','
  | lambda_param_no_default* lambda_param_with_default+ '/' &':'
lambda_star_etc:
  | wrong_lambda_star_etc
  | '*' lambda_param_no_default lambda_param_maybe_default* [ lambda_kwds ]
  | '*' ',' lambda_param_maybe_default+ [ lambda_kwds ]
  | lambda_kwds
lambda_kwds:
  | wrong_lambda_kwds
  | '**' lambda_param_no_default
lambda_param_no_default:
  | lambda_param ','
  | lambda_param &':'
lambda_param_with_default:
  | lambda_param default ','
  | lambda_param default &':'
lambda_param_maybe_default:
  | lambda_param [ default ] ','
  | lambda_param [ default ] &':'
lambda_param:
  | NAME
"

/-- Literals, brackets and arguments. -/
def displays : String := "
strings (kept):
  | TEXT+ => texts
list:
  | '[' [ star_named_expressions ] ']' => row
tuple:
  | '(' [ star_named_expression ',' [ star_named_expressions ] => row ] ')' => row
set:
  | '\x7b' star_named_expressions '\x7d'
dict:
  | '\x7b' [ double_starred_kvpairs ] '\x7d'
  | '\x7b' wrong_double_starred_kvpairs '\x7d'
double_starred_kvpairs:
  | ','.double_starred_kvpair+ [ ',' ]
double_starred_kvpair:
  | '**' bitwise_or
  | kvpair
kvpair:
  | expression ':' expression
for_if_clauses:
  | for_if_clause+
for_if_clause:
  | 'async' 'for' star_targets 'in' ~ disjunction ( 'if' disjunction )*
  | 'for' star_targets 'in' ~ disjunction ( 'if' disjunction )*
  | wrong_for_target
listcomp:
  | '[' named_expression for_if_clauses ']'
  | wrong_comprehension
setcomp:
  | '\x7b' named_expression for_if_clauses '\x7d'
  | wrong_comprehension
genexp:
  | '(' ( assignment_expression | expression !':=' ) for_if_clauses ')'
  | wrong_comprehension
dictcomp:
  | '\x7b' kvpair for_if_clauses '\x7d'
  | wrong_dict_comprehension
arguments (kept):
  | args [ ',' ] &')'
  | wrong_arguments
args:
  | ','.( starred_expression | ( assignment_expression | expression !':=' ) !'=' => argument )+ [ ',' kwargs => same ] => row
  | kwargs
kwargs:
  | ','.kwarg_or_starred+ ',' ','.kwarg_or_double_starred+ => row
  | ','.kwarg_or_starred+
  | ','.kwarg_or_double_starred+
starred_expression:
  | '*' expression => starred
kwarg_or_starred:
  | wrong_kwarg
  | NAME '=' expression
  | starred_expression
kwarg_or_double_starred:
  | wrong_kwarg
  | NAME '=' expression
  | '**' expression
"

/-- What can be bound. -/
def targets : String := "
star_targets:
  | star_target !','
  | star_target ( ',' star_target )* [ ',' ]
star_targets_list_seq:
  | ','.star_target+ [ ',' ]
star_targets_tuple_seq:
  | star_target ( ',' star_target )+ [ ',' ]
  | star_target ','
star_target (kept):
  | '*' ( !'*' star_target )
  | target_with_star_atom
target_with_star_atom (kept):
  | t_primary '.' NAME !t_lookahead
  | t_primary '[' slices ']' !t_lookahead
  | star_atom
star_atom:
  | NAME
  | '(' target_with_star_atom ')'
  | '(' [ star_targets_tuple_seq ] ')'
  | '[' [ star_targets_list_seq ] ']'
single_target:
  | single_subscript_attribute_target
  | NAME
  | '(' single_target ')'
single_subscript_attribute_target:
  | t_primary '.' NAME !t_lookahead
  | t_primary '[' slices ']' !t_lookahead
t_primary (grows):
  | t_primary '.' NAME &t_lookahead
  | t_primary '[' slices ']' &t_lookahead
  | t_primary genexp &t_lookahead
  | t_primary '(' [ arguments ] ')' &t_lookahead
  | atom &t_lookahead
t_lookahead:
  | '('
  | '['
  | '.'
del_targets:
  | ','.del_target+ [ ',' ]
del_target (kept):
  | t_primary '.' NAME !t_lookahead
  | t_primary '[' slices ']' !t_lookahead
  | del_t_atom
del_t_atom:
  | NAME
  | '(' del_target ')'
  | '(' [ del_targets ] ')'
  | '[' [ del_targets ] ']'
"

end LiveConsole.Program.Grammar
