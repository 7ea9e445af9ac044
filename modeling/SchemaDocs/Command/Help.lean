import SchemaDocs.Text.Split

/-! # What the program says about its usage -/

namespace SchemaDocs.Command

def usageText : String := Text.lines [
  "usage: protoc-docs [-h] --file-descriptors-path FILE_DESCRIPTORS_PATH",
  "                   --proto-docs-path PROTO_DOCS_PATH --sidebar-path",
  "                   SIDEBAR_PATH [--route-base-path ROUTE_BASE_PATH]",
  "                   [--template-path TEMPLATE_PATH]",
  "                   [--doc-extension DOC_EXTENSION]",
  "                   [--sidebar-name SIDEBAR_NAME]",
  "                   [--doc-id-prefix DOC_ID_PREFIX] [--workers WORKERS] [-v]"]

def helpText : String := usageText ++ Text.lines [
  "",
  "Generate documentation pages and a sidebar from protobuf file descriptors",
  "",
  "options:",
  "  -h, --help            show this help message and exit",
  "  --file-descriptors-path FILE_DESCRIPTORS_PATH",
  "                        JSON descriptor set or binary FileDescriptorSet",
  "                        (protoc --descriptor_set_out)",
  "  --proto-docs-path PROTO_DOCS_PATH",
  "                        Directory to write the generated pages to",
  "  --sidebar-path SIDEBAR_PATH",
  "                        File to write the sidebar module to",
  "  --route-base-path ROUTE_BASE_PATH",
  "                        URL route for the docs section",
  "  --template-path TEMPLATE_PATH",
  "                        Custom Jinja2 page template",
  "  --doc-extension DOC_EXTENSION",
  "                        Extension of generated pages",
  "  --sidebar-name SIDEBAR_NAME",
  "                        Sidebar key in the module",
  "  --doc-id-prefix DOC_ID_PREFIX",
  "                        Prefix for sidebar doc ids",
  "  --workers WORKERS     Threads used for rendering",
  "  -v, --verbose         Enable debug logging"]

end SchemaDocs.Command
