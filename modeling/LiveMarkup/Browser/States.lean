/-!
# The manager of states

Text of the browser runtime, line by line: switching between panels.
-/

set_option autoImplicit false

namespace LiveMarkup.Browser

/-- The lines of this part of the runtime. -/
def statesLines : List String := [
  "/* Strata runtime: states manager. */",
  "(function (global) \x7b",
  "  \"use strict\";",
  "",
  "  const Strata = (global.Strata = global.Strata || \x7b\x7d);",
  "  if (Strata.StatesManager) \x7b",
  "    return;",
  "  \x7d",
  "",
  "  class StatesManager \x7b",
  "    constructor(controller, options) \x7b",
  "      this.controller = controller;",
  "      this.states = controller.config.states || [];",
  "      this.lazy = !!(options && options.lazy);",
  "      this.active = controller.config.initialState || (this.states[0] ? this.states[0].id : null);",
  "      this.initial = this.active;",
  "      this.bind();",
  "    \x7d",
  "",
  "    has(id) \x7b",
  "      return this.states.some((s) => s.id === id);",
  "    \x7d",
  "",
  "    panel(id) \x7b",
  "      return document.getElementById(this.controller.id + \"-panel-\" + id);",
  "    \x7d",
  "",
  "    tab(id) \x7b",
  "      return document.getElementById(this.controller.id + \"-tab-\" + id);",
  "    \x7d",
  "",
  "    bind() \x7b",
  "      const root = this.controller.root;",
  "      this.controller.listen(root, \"click\", (event) => \x7b",
  "        const button = event.target.closest('[data-client-action=\"switch-state\"]');",
  "        if (!button || !root.contains(button)) \x7b",
  "          return;",
  "        \x7d",
  "        event.preventDefault();",
  "        this.switchTo(button.dataset.stateTarget);",
  "      \x7d);",
  "      this.controller.listen(root, \"keydown\", (event) => \x7b",
  "        const tab = event.target.closest('[role=\"tab\"]');",
  "        if (!tab || (event.key !== \"ArrowRight\" && event.key !== \"ArrowLeft\")) \x7b",
  "          return;",
  "        \x7d",
  "        const tabs = Array.from(root.querySelectorAll('[role=\"tab\"]:not([disabled])'));",
  "        const step = event.key === \"ArrowRight\" ? 1 : -1;",
  "        const next = tabs[(tabs.indexOf(tab) + step + tabs.length) % tabs.length];",
  "        if (next) \x7b",
  "          next.focus();",
  "          this.switchTo(next.dataset.stateTarget);",
  "        \x7d",
  "      \x7d);",
  "    \x7d",
  "",
  "    available(id) \x7b",
  "      const state = this.states.find((s) => s.id === id);",
  "      if (!state || state.disabled) \x7b",
  "        return false;",
  "      \x7d",
  "      const condition = state.condition;",
  "      if (!condition) \x7b",
  "        return true;",
  "      \x7d",
  "      const actual = Strata.readValue(document.getElementById(condition.componentId));",
  "      return Strata.evaluateCondition(condition.condition, actual, condition.value);",
  "    \x7d",
  "",
  "    async switchTo(id) \x7b",
  "      if (id === this.active || !this.available(id)) \x7b",
  "        return false;",
  "      \x7d",
  "      const controller = this.controller;",
  "      const context = \x7b from: this.active, to: id \x7d;",
  "      if ((await controller.runHook(\"beforeStateChange\", context)) === false) \x7b",
  "        return false;",
  "      \x7d",
  "",
  "      if (context.from) \x7b",
  "        this.apply(context.from, false);",
  "      \x7d",
  "      this.materialise(id);",
  "      this.apply(id, true);",
  "      this.active = id;",
  "",
  "      await controller.runStateHook(id, context);",
  "      controller.emit(\"state-change\", context);",
  "      await controller.runHook(\"afterStateChange\", context);",
  "      return true;",
  "    \x7d",
  "",
  "    apply(id, shown) \x7b",
  "      const panel = this.panel(id);",
  "      if (panel) \x7b",
  "        panel.hidden = !shown;",
  "        this.controller.toggle(panel, \"active\", shown);",
  "        this.controller.toggle(panel, \"hidden\", !shown);",
  "      \x7d",
  "      const tab = this.tab(id);",
  "      if (tab) \x7b",
  "        tab.setAttribute(\"aria-selected\", shown ? \"true\" : \"false\");",
  "        this.controller.toggle(tab, \"active\", shown);",
  "      \x7d",
  "    \x7d",
  "",
  "    /* Inactive panels of large state sets ship their content in a template. */",
  "    materialise(id) \x7b",
  "      const panel = this.panel(id);",
  "      const template = panel && panel.querySelector(\":scope > template[data-lazy-state]\");",
  "      if (template) \x7b",
  "        panel.replaceChildren(template.content.cloneNode(true));",
  "      \x7d",
  "    \x7d",
  "  \x7d",
  "",
  "  Strata.StatesManager = StatesManager;",
  "\x7d)(window);",
  ""]

end LiveMarkup.Browser
