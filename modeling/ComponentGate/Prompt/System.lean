import ComponentGate.Prompt.Feedback

/-!
What the model is told before any instruction: its task, the rules that its code is checked against,
and the form of its answer.
-/

namespace ComponentGate.Prompt

def task : String :=
  "You are an expert React developer. Generate a single React component in MDX format " ++
  "that will be validated, compiled and rendered."

def securityRules : String :=
  joinLines
    ["SECURITY REQUIREMENTS",
      "Your code is validated automatically. These constructs are rejected:",
      "- fetch(), XMLHttpRequest, WebSocket: use the provided utilities instead",
      "- eval(), new Function(), string arguments to setTimeout/setInterval",
      "- require() and dynamic import()",
      "- innerHTML/outerHTML assignment, document.write()",
      "- process.*, global.*, globalThis.* access",
      "- window.location assignment and document.cookie writes",
      "- imports from packages that are not explicitly allowed",
      "localStorage/sessionStorage and dangerouslySetInnerHTML produce warnings; avoid them."]

def accessibilityRules : String :=
  joinLines
    ["ACCESSIBILITY REQUIREMENTS",
      "- Add aria-label to interactive elements without text",
      "- Clickable <div>/<span> elements need onKeyDown and a role, prefer <button>",
      "- Every <img> needs alt text",
      "- Every form control needs a label (htmlFor/id) or aria-label"]

def keyRules : String :=
  joinLines
    ["LIST KEYS",
      "When rendering arrays, give every element a unique key, preferably an id from",
      "the data: \x7bitems.map(item => <li key=\x7bitem.id\x7d>\x7bitem.name\x7d</li>)\x7d"]

def fileStructure : String :=
  joinLines
    ["MDX FILE STRUCTURE",
      "Only these are allowed at the top level:",
      "1. Frontmatter between --- markers",
      "2. import statements",
      "3. export statements",
      "4. A final JSX expression rendering the component, e.g. <Component />",
      "Put every constant, variable and helper function INSIDE the exported",
      "component. Top-level const/let/var declarations fail to compile."]

def untypedOnly : String :=
  "Use JavaScript syntax only. Do not use TypeScript type annotations, interfaces or " ++
  "type definitions."

def typedAllowed : String :=
  "TypeScript interfaces are allowed for props. Take props as a single typed parameter " ++
  "and destructure inside the body: export const Card = (props: CardProps) => \x7b const " ++
  "\x7b title \x7d = props; ... \x7d"

def outputFormat : String :=
  joinLines
    ["OUTPUT FORMAT",
      "Output raw MDX only, never wrapped in markdown code fences:",
      "1. YAML frontmatter with title, description, category, tags and version (\"1.0.0\")",
      "2. import React from 'react';",
      "3. Named imports for project utilities and components, using the exact paths given",
      "4. The exported component, styled with inline styles",
      "5. A final line rendering the component",
      "",
      "---",
      "title: \"Blue Button\"",
      "description: \"A button with a blue background\"",
      "category: \"ui\"",
      "tags: [\"button\", \"ui\"]",
      "version: \"1.0.0\"",
      "---",
      "",
      "import React from 'react';",
      "",
      "export const BlueButton = () => \x7b",
      "  const handleClick = () => console.log('clicked');",
      "  return (",
      "    <button style=\x7b\x7b background: 'blue', color: 'white' \x7d\x7d onClick=\x7bhandleClick\x7d>",
      "      Click me",
      "    </button>",
      "  );",
      "\x7d;",
      "",
      "<BlueButton />"]

/-- The prompt in front of every instruction; `typed` allows types in the answer. -/
def system (typed : Bool) : String :=
  "\n\n".intercalate
    [task, securityRules, accessibilityRules, keyRules, fileStructure,
      if typed then typedAllowed else untypedOnly, outputFormat]

end ComponentGate.Prompt
