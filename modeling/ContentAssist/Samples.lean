/-! Small documents to try things on. -/
namespace ContentAssist.Samples

/-- An element with text, and an empty element with an attribute. -/
def note : String :=
  "<note>\n    <to>Bill</to>\n    <from name=\"tim\"/>\n</note>"

/-- A declaration and a comment before the root. -/
def noteWithProlog : String :=
  "<?xml version=\"1.0\" encoding=\"UTF-8\"?>\n<!-- greeting -->\n<note>\n    <to>Bill</to>\n</note>\n"

/-- Every kind of content but an element. -/
def mixedContent : String :=
  "<p>abc<!-- note --><![CDATA[raw]]>&amp;def</p>"

/-- Several attributes. -/
def person : String :=
  "<person name=\"tim\" gender=\"male\" age=\"42\">\n  <email>tim@example.com</email>\n</person>"

/-- A schema for `person` in YAML. -/
def personSchema : String :=
  "name: person
required: true
attributes:
  - key: name
    required: true
  - key: gender
    value: [male, female]
  - key: age
    value:
      pattern: \"^[0-9]+$\"
  - key: id
    required: true
elements:
  - name: email
    required: true
  - name: phone
    required: true
"

end ContentAssist.Samples
