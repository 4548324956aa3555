/-!
What an import refers to, told by the ending of its path.
-/
namespace TemplateIR

inductive ImportTarget where
  | stylesheet
  | schema
  | unknown
deriving DecidableEq, Repr

namespace ImportTarget

def text : ImportTarget → String
  | .stylesheet => "CSS"
  | .schema => "PROTO"
  | .unknown => "UNKNOWN"

/-- Style sheets and message schemas are known by their endings, letter for letter. Whether a path
with any other ending is allowed is for a later pass to say. -/
def ofPath (path : String) : ImportTarget :=
  let endsWith (ending : String) := ending.toList.isSuffixOf path.toList
  if endsWith ".gss" || endsWith ".scss" then .stylesheet
  else if endsWith ".proto" then .schema
  else .unknown

end ImportTarget
end TemplateIR
