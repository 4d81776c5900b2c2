import Backoffice.Declaration.Summary
import Backoffice.Resource.Registry

/-!
Resources for inspection: what they are, and where their fields lead.
-/

namespace Backoffice

namespace Field

def summary (field : Field) : Json :=
  .object (field.toMembers ++
    [("related_resource", Json.ofOption .string field.relatedResource?),
      ("renderer", Json.ofOption Renderer.summary field.renderer)])

end Field

namespace Resource

def summary (resource : Resource) : Json :=
  .object [
    ("backend", .string resource.backend.kind.name),
    ("context", Json.ofOption ContextName.toJson resource.context),
    ("embedded", .bool resource.isEmbedded),
    ("name", .string resource.name),
    ("operations", .object (Table.ofList (resource.operations.map fun (op, reference) =>
      (op.name, reference.toJson)))),
    ("order", Json.ofTexts resource.order),
    ("paginated", .bool resource.isPaginated),
    ("parent", Json.ofOption .string resource.parent),
    ("query_opts", resource.queryOpts.toJson),
    ("routes", RouteAction.namesJson resource.routes),
    ("schema", resource.schema.toJson)]

def fieldSummaries (resource : Resource) : Json :=
  .array (resource.orderedFields.map Field.summary)

def summaryWithFields (resource : Resource) : Json :=
  .object [("fields", resource.fieldSummaries), ("resource", resource.summary)]

def links (resource : Resource) : Json :=
  .array (resource.orderedFields.map fun field =>
    .array [.string field.key, Json.ofOption .string field.relatedResource?])

end Resource

namespace Registry

def links (registry : Registry) : Json :=
  .array (registry.resources.map fun resource =>
    .array [.string resource.name, resource.links])

end Registry

end Backoffice
