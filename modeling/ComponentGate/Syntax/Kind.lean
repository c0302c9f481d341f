/-!
The construct names of the component grammar and the roles a child can play in its parent.
-/

namespace ComponentGate.Syntax

/-- The construct a tree stands for. -/
inductive Kind where
  | program | comment | htmlComment | error | hashBang
  -- leaves
  | identifier | propertyIdentifier | privateIdentifier | typeIdentifier | statementIdentifier
  | shorthandProperty | shorthandPropertyPattern | thisName | superName | trueLiteral | falseLiteral
  | nullLiteral | undefinedName | importName | number | stringFragment | escapeSequence
  | regexPattern | regexFlags | optionalChain | markupText | characterReference
  -- expressions
  | string | templateString | templateSubstitution | regex | array | object | pair | spreadElement
  | parenthesized | sequence | functionExpression | generatorFunction | arrowFunction
  | callExpression | newExpression | memberExpression | subscriptExpression | nonNullExpression
  | asExpression | satisfiesExpression | instantiationExpression | metaProperty
  | assignmentExpression | augmentedAssignment | ternaryExpression | binaryExpression
  | unaryExpression | updateExpression | awaitExpression | yieldExpression | arguments
  | computedPropertyName | methodDefinition | classExpression
  -- patterns and parameters
  | objectPattern | arrayPattern | pairPattern | assignmentPattern | objectAssignmentPattern
  | restPattern | formalParameters | requiredParameter | optionalParameter
  -- markup
  | markupElement | markupSelfClosing | markupOpening | markupClosing | markupAttribute
  | markupExpression | markupNamespaceName
  -- types
  | typeAscription | optingTypeAscription | omittingTypeAscription | addingTypeAscription
  | assertsAscription | typePredicateAscription | asserts | typePredicate | typeParameters
  | typeParameter | typeConstraint | defaultType | typeArguments | predefinedType | genericType
  | nestedTypeIdentifier | nestedIdentifier | objectType | arrayType | tupleType | optionalType
  | restType | unionType | intersectionType | conditionalType | inferType | functionType
  | constructorType | readonlyType | typeQuery | indexTypeQuery | lookupType | literalType
  | templateLiteralType | templateType | parenthesizedType | thisType | existentialType | maybeType
  | propertySignature | methodSignature | callSignature | constructSignature | indexSignature
  | mappedTypeClause
  -- classes
  | classDeclaration | abstractClassDeclaration | classBody | classHeritage | extendsClause
  | implementsClause | fieldDefinition | abstractMethodSignature | staticBlock | decorator
  | accessibilityModifier | overrideModifier
  -- statements
  | expressionStatement | lexicalDeclaration | variableDeclaration | variableDeclarator
  | functionDeclaration | generatorFunctionDeclaration | functionSignature | statementBlock
  | ifStatement | elseClause | switchStatement | switchBody | switchCase | switchDefault
  | forStatement | forInStatement | whileStatement | doStatement | tryStatement | catchClause
  | finallyClause | withStatement | breakStatement | continueStatement | debuggerStatement
  | returnStatement | throwStatement | emptyStatement | labeledStatement | importStatement
  | importClause | namespaceImport | namedImports | importSpecifier | importRequireClause
  | importAttribute | importAlias | exportStatement | exportClause | exportSpecifier
  | namespaceExport | interfaceDeclaration | interfaceBody | extendsTypeClause
  | typeAliasDeclaration | enumDeclaration | enumBody | enumAssignment | ambientDeclaration
  | moduleDeclaration | internalModule
  deriving DecidableEq, Repr, Inhabited

/-- What a child is to its parent, where a parent tells its children apart. -/
inductive Role where
  | name | value | body | parameter | parameters | function | arguments | object | property
  | index | left | right | source | declaration | openTag | closeTag | constructor | pattern | type
  deriving DecidableEq, Repr, Inhabited

end ComponentGate.Syntax
