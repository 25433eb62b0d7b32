import LiveConsole.Program.Grammar.Notation

/-!
# The grammar of statements

A program is a row of statements. A statement without a body shares its line with others; a statement
with a body has it on the same line or, further right, on the lines below.
-/
namespace LiveConsole.Program.Grammar

/-- Programs and statements without a body. -/
def simpleStatements : String := "
file:
  | [ statements ] FINISH
statements:
  | statement+
statement:
  | compound_stmt
  | simple_stmts
simple_stmts:
  | simple_stmt !';' LINE_END
  | ';'.simple_stmt+ [ ';' ] LINE_END
simple_stmt (kept):
  | assignment
  | star_expressions
  | &'return' return_stmt
  | &( 'import' | 'from' ) import_stmt
  | &'raise' raise_stmt
  | 'pass'
  | &'del' del_stmt
  | &'yield' yield_stmt
  | &'assert' assert_stmt
  | 'break'
  | 'continue'
  | &'global' global_stmt
  | &'nonlocal' nonlocal_stmt
compound_stmt:
  | &( 'def' | '@' | 'async' ) function_def
  | &'if' if_stmt
  | &( 'class' | '@' ) class_def
  | &( 'with' | 'async' ) with_stmt
  | &( 'for' | 'async' ) for_stmt
  | &'try' try_stmt
  | &'while' while_stmt
  | match_stmt
assignment:
  | NAME ':' expression [ '=' annotated_rhs ]
  | ( '(' single_target ')' | single_subscript_attribute_target ) ':' expression [ '=' annotated_rhs ]
  | ( star_targets '=' )+ ( yield_expr | star_expressions ) !'='
  | single_target augassign ~ ( yield_expr | star_expressions )
  | wrong_assignment
annotated_rhs:
  | yield_expr
  | star_expressions
augassign:
  | '+='
  | '-='
  | '*='
  | '@='
  | '/='
  | '%='
  | '&='
  | '|='
  | '^='
  | '<<='
  | '>>='
  | '**='
  | '//='
return_stmt:
  | 'return' [ star_expressions ]
raise_stmt:
  | 'raise' expression [ 'from' expression ]
  | 'raise'
global_stmt:
  | 'global' ','.NAME+
nonlocal_stmt:
  | 'nonlocal' ','.NAME+
del_stmt:
  | 'del' del_targets &( ';' | LINE_END )
  | wrong_del_stmt
yield_stmt:
  | yield_expr
assert_stmt:
  | 'assert' expression [ ',' expression ]
import_stmt:
  | import_name
  | import_from
import_name:
  | 'import' dotted_as_names
import_from:
  | 'from' ( '.' | '...' )* dotted_name 'import' import_from_targets
  | 'from' ( '.' | '...' )+ 'import' import_from_targets
import_from_targets:
  | '(' import_from_as_names [ ',' ] ')'
  | import_from_as_names !','
  | '*'
  | wrong_import_from_targets
import_from_as_names:
  | ','.import_from_as_name+
import_from_as_name:
  | NAME [ 'as' NAME ]
dotted_as_names:
  | ','.dotted_as_name+
dotted_as_name:
  | dotted_name [ 'as' NAME ]
dotted_name (grows):
  | dotted_name '.' NAME
  | NAME
"

/-- Statements with a body. -/
def compoundStatements : String := "
block (kept):
  | LINE_END INDENT statements DEDENT
  | simple_stmts
  | wrong_block
decorators:
  | ( '@' named_expression LINE_END )+
class_def:
  | decorators class_def_raw
  | class_def_raw
class_def_raw:
  | wrong_class_def_raw
  | 'class' NAME [ '(' [ arguments ] ')' ] ':' block
function_def:
  | decorators function_def_raw
  | function_def_raw
function_def_raw:
  | wrong_def_raw
  | 'def' NAME &&'(' [ params ] ')' [ '->' expression ] &&':' block
  | 'async' 'def' NAME &&'(' [ params ] ')' [ '->' expression ] &&':' block
params:
  | wrong_parameters
  | parameters
parameters:
  | slash_no_default param_no_default* param_with_default* [ star_etc ]
  | slash_with_default param_with_default* [ star_etc ]
  | param_no_default+ param_with_default* [ star_etc ]
  | param_with_default+ [ star_etc ]
  | star_etc
slash_no_default:
  | param_no_default+ '/' ','
  | param_no_default+ '/' &')'
slash_with_default:
  | param_no_default* param_with_default+ '/' ','
  | param_no_default* param_with_default+ '/' &')'
star_etc:
  | wrong_star_etc
  | '*' param_no_default param_maybe_default* [ kwds ]
  | '*' param_no_default_star_annotation param_maybe_default* [ kwds ]
  | '*' ',' param_maybe_default+ [ kwds ]
  | kwds
kwds:
  | wrong_kwds
  | '**' param_no_default
param_no_default:
  | param ','
  | param &')'
param_no_default_star_annotation:
  | param_star_annotation ','
  | param_star_annotation &')'
param_with_default:
  | param default ','
  | param default &')'
param_maybe_default:
  | param [ default ] ','
  | param [ default ] &')'
param:
  | NAME [ annotation ]
param_star_annotation:
  | NAME star_annotation
annotation:
  | ':' expression
star_annotation:
  | ':' star_expression
default:
  | '=' expression
  | wrong_default
if_stmt:
  | wrong_if_stmt
  | 'if' named_expression ':' block elif_stmt
  | 'if' named_expression ':' block [ else_block ]
elif_stmt:
  | wrong_elif_stmt
  | 'elif' named_expression ':' block elif_stmt
  | 'elif' named_expression ':' block [ else_block ]
else_block:
  | wrong_else_stmt
  | 'else' &&':' block
while_stmt:
  | wrong_while_stmt
  | 'while' named_expression ':' block [ else_block ]
for_stmt:
  | wrong_for_stmt
  | 'for' star_targets 'in' ~ star_expressions ':' block [ else_block ]
  | 'async' 'for' star_targets 'in' ~ star_expressions ':' block [ else_block ]
  | wrong_for_target
with_stmt:
  | wrong_with_stmt_indent
  | 'with' '(' ','.with_item+ [ ',' ] ')' ':' block
  | 'with' ','.with_item+ ':' block
  | 'async' 'with' '(' ','.with_item+ [ ',' ] ')' ':' block
  | 'async' 'with' ','.with_item+ ':' block
  | wrong_with_stmt
with_item:
  | expression 'as' star_target &( ',' | ')' | ':' )
  | wrong_with_item
  | expression
try_stmt:
  | wrong_try_stmt
  | 'try' &&':' block finally_block
  | 'try' &&':' block except_block+ [ else_block ] [ finally_block ]
  | 'try' &&':' block except_star_block+ [ else_block ] [ finally_block ]
except_block:
  | wrong_except_stmt_indent
  | 'except' expression [ 'as' NAME ] ':' block
  | 'except' ':' block
  | wrong_except_stmt
except_star_block:
  | wrong_except_star_stmt_indent
  | 'except' '*' expression [ 'as' NAME ] ':' block
  | wrong_except_stmt
finally_block:
  | wrong_finally_stmt
  | 'finally' &&':' block
"

/-- Choices among patterns. -/
def patternStatements : String := "
match_stmt:
  | @match subject_expr ':' LINE_END INDENT case_block+ DEDENT
  | wrong_match_stmt
subject_expr:
  | star_named_expression ',' [ star_named_expressions ]
  | named_expression
case_block:
  | wrong_case_block
  | @case patterns [ guard ] ':' block
guard:
  | 'if' named_expression
patterns:
  | open_sequence_pattern
  | pattern
pattern:
  | as_pattern
  | or_pattern
as_pattern:
  | or_pattern 'as' pattern_capture_target
  | wrong_as_pattern
or_pattern:
  | '|'.closed_pattern+
closed_pattern (kept):
  | literal_pattern
  | capture_pattern
  | wildcard_pattern
  | value_pattern
  | group_pattern
  | sequence_pattern
  | mapping_pattern
  | class_pattern
literal_pattern:
  | signed_number !( '+' | '-' )
  | complex_number
  | strings
  | 'None'
  | 'True'
  | 'False'
literal_expr:
  | signed_number !( '+' | '-' )
  | complex_number
  | strings
  | 'None'
  | 'True'
  | 'False'
complex_number:
  | signed_real_number '+' imaginary_number
  | signed_real_number '-' imaginary_number
signed_number:
  | NUMBER
  | '-' NUMBER
signed_real_number:
  | real_number
  | '-' real_number
real_number:
  | NUMBER => real
imaginary_number:
  | NUMBER => imaginary
capture_pattern:
  | pattern_capture_target
pattern_capture_target:
  | !@_ NAME !( '.' | '(' | '=' )
wildcard_pattern:
  | @_
value_pattern:
  | attr !( '.' | '(' | '=' )
attr (grows):
  | name_or_attr '.' NAME
name_or_attr:
  | attr
  | NAME
group_pattern:
  | '(' pattern ')'
sequence_pattern:
  | '[' [ maybe_sequence_pattern ] ']'
  | '(' [ open_sequence_pattern ] ')'
open_sequence_pattern:
  | maybe_star_pattern ',' [ maybe_sequence_pattern ]
maybe_sequence_pattern:
  | ','.maybe_star_pattern+ [ ',' ]
maybe_star_pattern:
  | star_pattern
  | pattern
star_pattern (kept):
  | '*' pattern_capture_target
  | '*' wildcard_pattern
mapping_pattern:
  | '\x7b' '\x7d'
  | '\x7b' double_star_pattern [ ',' ] '\x7d'
  | '\x7b' items_pattern ',' double_star_pattern [ ',' ] '\x7d'
  | '\x7b' items_pattern [ ',' ] '\x7d'
items_pattern:
  | ','.key_value_pattern+
key_value_pattern:
  | ( literal_expr | attr ) ':' pattern
double_star_pattern:
  | '**' pattern_capture_target
class_pattern:
  | name_or_attr '(' ')'
  | name_or_attr '(' positional_patterns [ ',' ] ')'
  | name_or_attr '(' keyword_patterns [ ',' ] ')'
  | name_or_attr '(' positional_patterns ',' keyword_patterns [ ',' ] ')'
  | wrong_class_pattern
positional_patterns:
  | ','.pattern+
keyword_patterns:
  | ','.keyword_pattern+
keyword_pattern:
  | NAME '=' pattern
"

end LiveConsole.Program.Grammar
