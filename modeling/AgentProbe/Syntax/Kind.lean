set_option autoImplicit false

/-!
The kinds of nodes in a syntax tree.

A node is either a construct of the language, which has a kind of its own, or a keyword, operator or
delimiter, whose kind is its spelling.  `Kind.name` is the name that references and reports show.
-/

namespace AgentProbe.Syntax

/-- What a zero-width boundary separates. -/
inductive Boundary where
  | lineEnd | blockStart | blockEnd
deriving DecidableEq, Repr, Inhabited

inductive Kind where
  | moduleRoot | importStatement | importFromStatement | futureImportStatement | importPrefix
  | relativeImport | aliasedImport | wildcardImport | dottedName | printStatement | chevron
  | execStatement | assertStatement | expressionStatement | returnStatement | deleteStatement
  | raiseStatement | passStatement | breakStatement | continueStatement | globalStatement
  | nonlocalStatement | typeAliasStatement | assignment | augmentedAssignment | patternList
  | listPattern | tuplePattern | listSplatPattern | dictionarySplatPattern | ifStatement
  | elifClause | elseClause | forStatement | whileStatement | tryStatement | exceptClause
  | exceptGroupClause | finallyClause | withStatement | withClause | withItem
  | functionDefinition | classDefinition | decoratedDefinition | decorator | matchStatement
  | caseClause | block | parameters | lambdaParameters | typedParameter | defaultParameter
  | typedDefaultParameter | keywordSeparator | positionalSeparator | typeParameter
  | typeExpression | splatType | genericType | unionType | constrainedType | memberType
  | casePattern | keywordPattern | classPattern | splatPattern | unionPattern | dictPattern
  | complexPattern | expressionList | namedExpression | asPattern | asPatternTarget
  | conditionalExpression | lambdaExpression | booleanOperator | notOperator | comparisonOperator
  | binaryOperator | unaryOperator | awaitExpression | memberAccess | subscript | slice | call
  | argumentList | keywordArgument | listSplat | dictionarySplat | listDisplay | tupleDisplay
  | setDisplay | dictionaryDisplay | pair | listComprehension | setComprehension
  | dictionaryComprehension | generatorExpression | forInClause | ifClause
  | parenthesizedExpression | yieldExpression | string | concatenatedString | stringStart
  | stringContent | stringEnd | interpolation | escapeSequence | escapeInterpolation
  | typeConversion | formatSpecifier | formatExpression | identifier | integer | float
  | trueLiteral | falseLiteral | noneLiteral | ellipsis | comment | lineContinuation | error
  /-- A keyword, operator or delimiter. -/
  | token (spelling : String)
  /-- A zero-width line end, block start or block end; it is in no finished tree. -/
  | boundary (mark : Boundary)
deriving DecidableEq, Repr, Inhabited

namespace Kind

def name : Kind → String
  | .moduleRoot => "module"
  | .importStatement => "import_statement"
  | .importFromStatement => "import_from_statement"
  | .futureImportStatement => "future_import_statement"
  | .importPrefix => "import_prefix"
  | .relativeImport => "relative_import"
  | .aliasedImport => "aliased_import"
  | .wildcardImport => "wildcard_import"
  | .dottedName => "dotted_name"
  | .printStatement => "print_statement"
  | .chevron => "chevron"
  | .execStatement => "exec_statement"
  | .assertStatement => "assert_statement"
  | .expressionStatement => "expression_statement"
  | .returnStatement => "return_statement"
  | .deleteStatement => "delete_statement"
  | .raiseStatement => "raise_statement"
  | .passStatement => "pass_statement"
  | .breakStatement => "break_statement"
  | .continueStatement => "continue_statement"
  | .globalStatement => "global_statement"
  | .nonlocalStatement => "nonlocal_statement"
  | .typeAliasStatement => "type_alias_statement"
  | .assignment => "assignment"
  | .augmentedAssignment => "augmented_assignment"
  | .patternList => "pattern_list"
  | .listPattern => "list_pattern"
  | .tuplePattern => "tuple_pattern"
  | .listSplatPattern => "list_splat_pattern"
  | .dictionarySplatPattern => "dictionary_splat_pattern"
  | .ifStatement => "if_statement"
  | .elifClause => "elif_clause"
  | .elseClause => "else_clause"
  | .forStatement => "for_statement"
  | .whileStatement => "while_statement"
  | .tryStatement => "try_statement"
  | .exceptClause => "except_clause"
  | .exceptGroupClause => "except_group_clause"
  | .finallyClause => "finally_clause"
  | .withStatement => "with_statement"
  | .withClause => "with_clause"
  | .withItem => "with_item"
  | .functionDefinition => "function_definition"
  | .classDefinition => "class_definition"
  | .decoratedDefinition => "decorated_definition"
  | .decorator => "decorator"
  | .matchStatement => "match_statement"
  | .caseClause => "case_clause"
  | .block => "block"
  | .parameters => "parameters"
  | .lambdaParameters => "lambda_parameters"
  | .typedParameter => "typed_parameter"
  | .defaultParameter => "default_parameter"
  | .typedDefaultParameter => "typed_default_parameter"
  | .keywordSeparator => "keyword_separator"
  | .positionalSeparator => "positional_separator"
  | .typeParameter => "type_parameter"
  | .typeExpression => "type"
  | .splatType => "splat_type"
  | .genericType => "generic_type"
  | .unionType => "union_type"
  | .constrainedType => "constrained_type"
  | .memberType => "member_type"
  | .casePattern => "case_pattern"
  | .keywordPattern => "keyword_pattern"
  | .classPattern => "class_pattern"
  | .splatPattern => "splat_pattern"
  | .unionPattern => "union_pattern"
  | .dictPattern => "dict_pattern"
  | .complexPattern => "complex_pattern"
  | .expressionList => "expression_list"
  | .namedExpression => "named_expression"
  | .asPattern => "as_pattern"
  | .asPatternTarget => "as_pattern_target"
  | .conditionalExpression => "conditional_expression"
  | .lambdaExpression => "lambda"
  | .booleanOperator => "boolean_operator"
  | .notOperator => "not_operator"
  | .comparisonOperator => "comparison_operator"
  | .binaryOperator => "binary_operator"
  | .unaryOperator => "unary_operator"
  | .awaitExpression => "await"
  | .memberAccess => "attribute"
  | .subscript => "subscript"
  | .slice => "slice"
  | .call => "call"
  | .argumentList => "argument_list"
  | .keywordArgument => "keyword_argument"
  | .listSplat => "list_splat"
  | .dictionarySplat => "dictionary_splat"
  | .listDisplay => "list"
  | .tupleDisplay => "tuple"
  | .setDisplay => "set"
  | .dictionaryDisplay => "dictionary"
  | .pair => "pair"
  | .listComprehension => "list_comprehension"
  | .setComprehension => "set_comprehension"
  | .dictionaryComprehension => "dictionary_comprehension"
  | .generatorExpression => "generator_expression"
  | .forInClause => "for_in_clause"
  | .ifClause => "if_clause"
  | .parenthesizedExpression => "parenthesized_expression"
  | .yieldExpression => "yield"
  | .string => "string"
  | .concatenatedString => "concatenated_string"
  | .stringStart => "string_start"
  | .stringContent => "string_content"
  | .stringEnd => "string_end"
  | .interpolation => "interpolation"
  | .escapeSequence => "escape_sequence"
  | .escapeInterpolation => "escape_interpolation"
  | .typeConversion => "type_conversion"
  | .formatSpecifier => "format_specifier"
  | .formatExpression => "format_expression"
  | .identifier => "identifier"
  | .integer => "integer"
  | .float => "float"
  | .trueLiteral => "true"
  | .falseLiteral => "false"
  | .noneLiteral => "none"
  | .ellipsis => "ellipsis"
  | .comment => "comment"
  | .lineContinuation => "line_continuation"
  | .error => "ERROR"
  | .token spelling => spelling
  | .boundary _ => ""

/-- Constructs are named nodes; keywords, operators and delimiters are not. -/
def isNamed : Kind → Bool
  | .token _ => false
  | .boundary _ => false
  | _ => true

/-- Whether a node of the kind has no width and is in no finished tree. -/
def isBoundary : Kind → Bool
  | .boundary _ => true
  | _ => false

def isImport (kind : Kind) : Bool :=
  kind == .importStatement || kind == .importFromStatement || kind == .futureImportStatement

end Kind

end AgentProbe.Syntax
